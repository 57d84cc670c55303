import Phrasebook.Proofs.Evaluation
import Phrasebook.Proofs.Quotation
import Phrasebook.Proofs.Restoration

/-!
# Nested calls

A function that joins its arguments is called on a reference, this call is put in quotes and the
function called on it, and so on. Every level reads what the level below has returned, protected,
and protects its own result again.

None of this shows. A quotable text that is protected stands for itself inside quotes, and to
protect it once more changes nothing. So from the first level on all results are the same, however
deep the calls are nested, and the one level of stripping at the end takes off what the first
protection has put on.
-/

namespace Phrasebook.Template

/-- The function that joins its arguments. -/
def concatenate : TextFunction :=
  fun arguments => some arguments.flatten

/-- A call on a reference, put so many times in quotes into a call of the same function. -/
def nested (function name : Text) : Nat → Text
  | 0 => function ++ ':' :: '{' :: (name ++ ['}'])
  | depth + 1 => quotedCall function (nested function name depth)

/-- Nested calls as a tree. -/
def nest (function name : Text) : Nat → Tree
  | 0 => .call function (.reference name .nil) .nil
  | depth + 1 => .call function (.quoted (nest function name depth) .nil) .nil

/-- The text holds a closing brace, and no quote before the first one. -/
def ClosesUnquoted (text : Text) : Prop :=
  ∃ inside behind, text = inside ++ '}' :: behind ∧ '}' ∉ inside ∧ '"' ∉ inside

/-- A text without backslashes in which every brace is closed, with no quote in between. -/
structure Enclosable (text : Text) : Prop where
  backslash_absent : '\\' ∉ text
  closed : ∀ before after, text = before ++ '{' :: after → ClosesUnquoted after

variable {scope : Scope} {names : List Text} {function name : Text} {value : Value}

/-- Nested calls are written as their tree is. -/
theorem written_nest (function name : Text) (depth : Nat) :
    (nest function name depth).written = nested function name depth := by
  induction depth with
  | zero => simp [nest, nested, Tree.written, Operands.written]
  | succ depth inductionHypothesis =>
    simp [nest, nested, quotedCall, Tree.written, Operands.written, inductionHypothesis]

/-- The tree of nested calls is well-formed. -/
theorem nest_wellFormed (listed : function ∈ names) (ordinary : Ordinary name) (depth : Nat) :
    (nest function name depth).WellFormed names := by
  induction depth with
  | zero => exact ⟨listed, by simp, ⟨ordinary, trivial⟩, id, trivial⟩
  | succ depth inductionHypothesis =>
    exact ⟨listed, by simp, ⟨inductionHypothesis, trivial⟩, id, trivial⟩

/-- Behind a first part, an enclosable text is enclosable. -/
theorem Enclosable.behind {front rest : Text} (enclosable : Enclosable (front ++ rest)) :
    Enclosable rest := by
  constructor
  · intro member
    exact enclosable.backslash_absent (List.mem_append_right _ member)
  · rintro before after rfl
    exact enclosable.closed (front ++ before) after (List.append_assoc _ _ _).symm

/-- A character in front of an enclosable text is no backslash, and closed if it is a brace. -/
theorem enclosable_cons_iff {first : Char} {rest : Text} :
    Enclosable (first :: rest) ↔
      first ≠ '\\' ∧ (first = '{' → ClosesUnquoted rest) ∧ Enclosable rest := by
  constructor
  · intro enclosable
    refine ⟨?_, ?_, Enclosable.behind (show Enclosable ([first] ++ rest) from enclosable)⟩
    · rintro rfl
      exact enclosable.backslash_absent List.mem_cons_self
    · rintro rfl
      exact enclosable.closed [] rest rfl
  · rintro ⟨notBackslash, closing, others⟩
    constructor
    · intro member
      rcases List.mem_cons.mp member with rfl | inside
      · exact notBackslash rfl
      · exact others.backslash_absent inside
    · intro before after same
      cases before with
      | nil =>
        obtain ⟨rfl, rfl⟩ := List.cons.inj same
        exact closing rfl
      | cons head between =>
        exact others.closed between after (List.cons.inj same).2

/-- The first closing brace is found by breaking the text there. -/
theorem closesUnquoted_iff {text : Text} :
    ClosesUnquoted text ↔ ∃ parts ∈ Text.breakAt? '}' text, '"' ∉ parts.1 := by
  constructor
  · rintro ⟨inside, behind, whole, apart, unquoted⟩
    exact ⟨(inside, behind), Text.breakAt?_eq_some_iff.mpr ⟨whole, apart⟩, unquoted⟩
  · rintro ⟨⟨inside, behind⟩, broken, unquoted⟩
    obtain ⟨whole, apart⟩ := Text.breakAt?_eq_some_iff.mp broken
    exact ⟨inside, behind, whole, apart, unquoted⟩

instance (text : Text) : Decidable (ClosesUnquoted text) :=
  decidable_of_iff _ closesUnquoted_iff.symm

instance decideEnclosable : (text : Text) → Decidable (Enclosable text)
  | [] => isTrue ⟨by simp, by simp⟩
  | first :: rest =>
    have := decideEnclosable rest
    decidable_of_iff _ enclosable_cons_iff.symm

/-- An enclosable text is quotable: none of its characters is escaped, and where a reference begins
it is closed before the next quote. -/
theorem Enclosable.quotable {text : Text} (enclosable : Enclosable text) :
    Quotable names false text := by
  match text with
  | [] => exact .nil false
  | first :: rest =>
    obtain ⟨notBackslash, closing, others⟩ := enclosable_cons_iff.mp enclosable
    by_cases brace : first = '{'
    · subst brace
      obtain ⟨inside, behind, rfl, apart, unquoted⟩ := closing rfl
      have further : Enclosable ('}' :: behind) := others.behind
      obtain ⟨_, _, remaining⟩ := enclosable_cons_iff.mp further
      exact .reference apart unquoted (by simp) remaining.quotable
    · by_cases quote : first = '"'
      · subst quote
        exact .quote others.quotable
      · exact .plain (isPlain_iff.mpr ⟨quote, brace, notBackslash⟩) others.quotable
termination_by text.length

/-- A quotable result fits into quotes once it is protected. -/
theorem fits_of_quotable (plainFunctions : ∀ name ∈ scope.functions.keys, PlainName name)
    (plainVariables : ∀ name ∈ scope.bindings.keys, PlainName name) {result : Text}
    (quotable : Quotable scope.bindings.keys false result) : scope.Fits result := by
  intro text value after reads
  have kept : Quotable scope.bindings.keys false
      (protect scope.functions.keys scope.bindings.keys result) :=
    (quotable_protectAfter_iff plainVariables [] result).mpr quotable
  have inert : InertAfter scope.functions.keys scope.bindings.keys []
      (protect scope.functions.keys scope.bindings.keys result) :=
    protectAfter_inertAfter plainFunctions plainVariables ⟨rfl, rfl⟩
  exact kept.reads_append plainVariables (fun _ member => member) rfl inert reads

/-- A function that joins its arguments returns them joined. -/
theorem resultOf?_concatenate (joins : scope.functions.find? function = some concatenate)
    (arguments : List Text) : scope.resultOf? function arguments = some arguments.flatten := by
  rw [Scope.resultOf?, joins]
  rfl

/-- Nested calls stand for the protected value at every depth, if protecting that again changes
nothing. -/
theorem value_nest (joins : scope.functions.find? function = some concatenate)
    (bound : scope.bindings.find? name = some value)
    (stable : protect scope.functions.keys scope.bindings.keys
        (protect scope.functions.keys scope.bindings.keys value.text) =
      protect scope.functions.keys scope.bindings.keys value.text) (depth : Nat) :
    (nest function name depth).value scope =
      protect scope.functions.keys scope.bindings.keys value.text := by
  have stands := scope.referenceText_of_find? bound
  induction depth with
  | zero =>
    simp [nest, Tree.value, Operands.values, Scope.callText, resultOf?_concatenate joins, stands]
  | succ depth inductionHypothesis =>
    simp [nest, Tree.value, Operands.values, Scope.callText, resultOf?_concatenate joins,
      inductionHypothesis, stable]

/-- All results in nested calls fit into quotes: the innermost one is the value, and every other
one is what nested calls stand for. -/
theorem nest_allFit (joins : scope.functions.find? function = some concatenate)
    (bound : scope.bindings.find? name = some value) (fitting : scope.Fits value.text)
    (fits : ∀ depth, scope.Fits ((nest function name depth).value scope)) (depth : Nat) :
    AllFit scope ((nest function name depth).results scope) := by
  have returned := resultOf?_concatenate joins
  induction depth with
  | zero =>
    have stands := scope.referenceText_of_find? bound
    refine forall_results_call.mpr ⟨by simp [Operands.results], ?_, by simp [Tree.results]⟩
    exact ⟨value.text, by simp [Operands.values, returned, stands], fitting⟩
  | succ depth inductionHypothesis =>
    refine forall_results_call.mpr ⟨?_, ?_, by simp [Tree.results]⟩
    · exact forall_results_quoted.mpr ⟨inductionHypothesis, by simp [Operands.results]⟩
    · exact ⟨_, by simp [Operands.values, returned], fits depth⟩

/-- The search finds the nested calls and nothing else, if no other name ends the name of the
function.

Proof: by induction on the depth. At every level the name is found first; the characters between
it and the level below, and those behind that, have a meaning, so no name begins there. -/
theorem callSitesFrom_nest (plain : ∀ other ∈ names, PlainName other)
    (apart : ∀ other ∈ names, other <:+ function → other = function) (listed : function ∈ names)
    (ordinary : Ordinary name) (depth : Nat) {found : List Nat} {offset : Nat} {after : Text} :
    callSitesFrom names found offset (nested function name depth ++ after) =
      callSitesFrom names ((nest function name depth).sites offset ++ found)
        (offset + Text.width (nested function name depth)) after := by
  induction depth generalizing found offset after with
  | zero =>
    have sites : (nest function name 0).sites offset = [offset] := rfl
    have written : nested function name 0 ++ after =
        function ++ ':' :: '{' :: (name ++ '}' :: after) := by
      simp [nested]
    have reference : '{' :: (name ++ '}' :: after) = '{' :: name ++ ['}'] ++ after := by simp
    rw [written, callSitesFrom_head plain apart listed (Or.inr rfl),
      callSitesFrom_special plain (by decide), reference, callSitesFrom_reference plain ordinary,
      sites]
    simp only [nested, List.cons_append, List.nil_append, Text.width, Text.width_append,
      Nat.add_assoc, Nat.zero_add]
  | succ depth inductionHypothesis =>
    have sites : (nest function name (depth + 1)).sites offset =
        (nest function name depth).sites (offset + Text.width function + Text.width [':', '"']) ++
          [offset] := rfl
    have written : nested function name (depth + 1) ++ after =
        function ++ ':' :: '"' :: (nested function name depth ++ '"' :: after) := by
      simp [nested, quotedCall]
    rw [written, callSitesFrom_head plain apart listed (Or.inl rfl),
      callSitesFrom_special plain (by decide), callSitesFrom_special plain (by decide),
      inductionHypothesis, callSitesFrom_special plain (by decide), sites]
    simp only [nested, quotedCall, Text.width, Text.width_append, List.append_assoc,
      List.cons_append, List.nil_append, Nat.add_assoc, Nat.add_zero]

/-- The sites of nested calls are those of their tree. -/
theorem callSites_nest (plain : ∀ other ∈ names, PlainName other)
    (apart : ∀ other ∈ names, other <:+ function → other = function) (listed : function ∈ names)
    (ordinary : Ordinary name) (depth : Nat) :
    callSites names (nested function name depth) = (nest function name depth).sites 0 := by
  rw [callSites, ← List.append_nil (nested function name depth),
    callSitesFrom_nest plain apart listed ordinary, callSitesFrom, List.append_nil]

/-- Once the calls of nested calls are resolved, what they stand for is all there is. -/
theorem resolved_nest (function name : Text) (depth : Nat) :
    (nest function name depth).resolved scope = (nest function name depth).value scope := by
  cases depth with
  | zero => rfl
  | succ depth => rfl

/-- Nested calls of a function that joins its arguments are rendered to the stripped value at every
depth, if the value is quotable. -/
theorem render_nested (plainFunctions : ∀ other ∈ scope.functions.keys, PlainName other)
    (plainVariables : ∀ other ∈ scope.bindings.keys, PlainName other)
    (joins : scope.functions.find? function = some concatenate)
    (apart : ∀ other ∈ scope.functions.keys, other <:+ function → other = function)
    (bound : scope.bindings.find? name = some value)
    (quotable : Quotable scope.bindings.keys false value.text) (depth : Nat) :
    render scope (nested function name depth) = .ok (Text.trim (strip value.text)) := by
  have listed : function ∈ scope.functions.keys := Dictionary.mem_keys_iff.mpr ⟨_, joins⟩
  have known : name ∈ scope.bindings.keys := Dictionary.mem_keys_iff.mpr ⟨_, bound⟩
  have ordinary : Ordinary name := (plainVariables name known).ordinary
  have inert : InertAfter scope.functions.keys scope.bindings.keys []
      (protect scope.functions.keys scope.bindings.keys value.text) :=
    protectAfter_inertAfter plainFunctions plainVariables ⟨rfl, rfl⟩
  have stable := protectAfter_eq_self inert
  have stands := value_nest joins bound stable
  have kept : Quotable scope.bindings.keys false
      (protect scope.functions.keys scope.bindings.keys value.text) :=
    (quotable_protectAfter_iff plainVariables [] value.text).mpr quotable
  have fits (level : Nat) : scope.Fits ((nest function name level).value scope) := by
    rw [stands level]
    exact fits_of_quotable plainFunctions plainVariables kept
  have fitting := fits_of_quotable plainFunctions plainVariables quotable
  have found : callSites scope.functions.keys (nest function name depth).written =
      (nest function name depth).sites 0 := by
    rw [written_nest]
    exact callSites_nest plainFunctions apart listed ordinary depth
  obtain ⟨_, resolved⟩ := (nest function name depth).resolveCalls_written plainFunctions
    (nest_wellFormed listed ordinary depth) (nest_allFit joins bound fitting fits depth) found
  rw [written_nest, resolved_nest, stands] at resolved
  have substituted : substitute scope.bindings
      (protect scope.functions.keys scope.bindings.keys value.text) =
      protect scope.functions.keys scope.bindings.keys value.text :=
    substituteAfter_eq_self plainVariables (fun _ member => member) rfl inert
  have closed : ∀ other ∈ scope.bindings.keys, other.getLast? ≠ some '\\' :=
    fun other member => (plainVariables other member).ordinary.getLast_ne
  rw [render, resolved, Except.map, finish, substituted, strip_protect closed]

/-- Nesting does not show: calls of a function that joins its arguments, nested to any depth around
a reference, are rendered to the value of the variable, trimmed.

The names are plain, and no other name ends the name of the function. The value holds no backslash
and closes every brace, but it may hold quotes, heads of calls, and references to the variable
itself, to other variables and to none.

Proof: such a value is quotable, and without backslashes there is nothing to strip from it. -/
theorem nesting_transparent (scope : Scope) (function name : Text) (value : Value)
    (plainFunctions : ∀ other ∈ scope.functions.keys, PlainName other)
    (plainVariables : ∀ other ∈ scope.bindings.keys, PlainName other)
    (joins : scope.functions.find? function = some concatenate)
    (apart : ∀ other ∈ scope.functions.keys, other <:+ function → other = function)
    (bound : scope.bindings.find? name = some value) (enclosable : Enclosable value.text)
    (depth : Nat) : render scope (nested function name depth) = .ok (Text.trim value.text) := by
  have unescaped : strip value.text = value.text :=
    (strip_eq_self_iff value.text).mpr (levelAtMost_zero_of_not_mem enclosable.backslash_absent)
  have rendered := render_nested plainFunctions plainVariables joins apart bound
    enclosable.quotable depth
  rwa [unescaped] at rendered

/-- Three levels around a value with quotes, with heads of calls, and with references to the
variable itself, to another one and to none, next to a function whose name ends in the other's. -/
theorem nesting_transparent_hostile :
    let value : Text :=
      ['"', 'c', ':', '{', 'x', '}', '{', 'z', '}', 'b', 'c', ':', '"', '{', 'y', '}', '}', ' ']
    let scope : Scope :=
      ⟨Dictionary.ofList [(['x'], .string value), (['z'], .bool true)],
        Dictionary.ofList [(['c'], concatenate), (['b', 'c'], fun _ => none)]⟩
    (∀ other ∈ scope.functions.keys, PlainName other) ∧
      (∀ other ∈ scope.bindings.keys, PlainName other) ∧
      scope.functions.find? ['c'] = some concatenate ∧
      (∀ other ∈ scope.functions.keys, other <:+ ['c'] → other = ['c']) ∧
      scope.bindings.find? ['x'] = some (.string value) ∧ Enclosable value ∧
      render scope (nested ['c'] ['x'] 2) =
        .ok ['"', 'c', ':', '{', 'x', '}', '{', 'z', '}', 'b', 'c', ':', '"', '{', 'y', '}',
          '}'] := by
  intro value scope
  have plainFunctions : ∀ other ∈ scope.functions.keys, PlainName other := by decide
  have plainVariables : ∀ other ∈ scope.bindings.keys, PlainName other := by decide
  have joins : scope.functions.find? ['c'] = some concatenate := rfl
  have apart : ∀ other ∈ scope.functions.keys, other <:+ ['c'] → other = ['c'] := by decide
  have bound : scope.bindings.find? ['x'] = some (.string value) := by decide
  have enclosable : Enclosable value := by decide
  have trimmed : Text.trim value =
      ['"', 'c', ':', '{', 'x', '}', '{', 'z', '}', 'b', 'c', ':', '"', '{', 'y', '}', '}'] := by
    decide
  have rendered := nesting_transparent scope ['c'] ['x'] (.string value) plainFunctions
    plainVariables joins apart bound enclosable 2
  exact ⟨plainFunctions, plainVariables, joins, apart, bound, enclosable, trimmed ▸ rendered⟩

end Phrasebook.Template
