import Phrasebook.Function
import Phrasebook.Proofs.Dictionaries
import Phrasebook.Proofs.Escaping
import Phrasebook.Proofs.Evaluation

/-!
# Mild values

The value of a variable travels through a template. A function returns it, it is protected and
put into quotes, and there the next function takes it up. On this way it may lose its end, or
gain a neighbour that takes its last backslash for an escape. A text is mild if nothing comes of
that: its braces belong to references that no variable answers, and its backslashes stand in
front of visible characters other than backslashes.

Whatever a written tree does to mild texts leaves them mild, if its functions do, as those that
are always at hand do. Such a tree is then rendered without a fault, however deeply its calls
are nested, and whether or not all of its references are answered.
-/

namespace Phrasebook.Template

/-- A text in which every brace opens a reference to none of these variables, and every
backslash stands in front of a visible character that is not a backslash. -/
inductive Mild (variableNames : List Text) : Text → Prop where
  | nil : Mild variableNames []
  | bare {first : Char} {rest : Text} (notBrace : first ≠ '{') (notBackslash : first ≠ '\\')
      (others : Mild variableNames rest) : Mild variableNames (first :: rest)
  | escaped {second : Char} {rest : Text} (single : second ≠ '\\')
      (visible : Text.isBlank second = false) (others : Mild variableNames rest) :
      Mild variableNames ('\\' :: second :: rest)
  | reference {name rest : Text} (ordinary : Ordinary name) (unknown : name ∉ variableNames)
      (others : Mild variableNames rest) : Mild variableNames ('{' :: (name ++ '}' :: rest))

variable {variableNames : List Text} {text : Text}

/-- Mild texts may be joined. -/
theorem Mild.append {other : Text} (mild : Mild variableNames text)
    (behind : Mild variableNames other) : Mild variableNames (text ++ other) := by
  induction mild with
  | nil => exact behind
  | bare notBrace notBackslash _ inductionHypothesis =>
    exact .bare notBrace notBackslash inductionHypothesis
  | escaped single visible _ inductionHypothesis =>
    exact .escaped single visible inductionHypothesis
  | reference ordinary unknown _ inductionHypothesis =>
    rw [List.cons_append, List.append_assoc, List.cons_append]
    exact .reference ordinary unknown inductionHypothesis

/-- An ordinary text is mild. -/
theorem Ordinary.mild (ordinary : Ordinary text) : Mild variableNames text := by
  induction text with
  | nil => exact .nil
  | cons first rest inductionHypothesis =>
    obtain ⟨plain, others⟩ := ordinary_cons.mp ordinary
    obtain ⟨_, _, brace, _, backslash⟩ := isOrdinary_iff.mp plain
    exact .bare brace backslash (inductionHypothesis others)

/-- A mild text stays mild when it loses blanks at its end: no escape and no reference ends in
a blank. -/
theorem Mild.of_append_blanks {blanks : Text} (blank : ∀ character ∈ blanks,
    Text.isBlank character = true) (mild : Mild variableNames (text ++ blanks)) :
    Mild variableNames text := by
  generalize whole : text ++ blanks = joined at mild
  induction mild generalizing text with
  | nil =>
    obtain ⟨rfl, _⟩ := List.append_eq_nil_iff.mp whole
    exact .nil
  | bare notBrace notBackslash _ inductionHypothesis =>
    cases text with
    | nil => exact .nil
    | cons head tail =>
      obtain ⟨rfl, behind⟩ := List.cons.inj whole
      exact .bare notBrace notBackslash (inductionHypothesis behind)
  | escaped single visible _ inductionHypothesis =>
    cases text with
    | nil => exact .nil
    | cons head tail =>
      obtain ⟨rfl, behind⟩ := List.cons.inj whole
      cases tail with
      | nil =>
        have hidden := blank _ (behind ▸ List.mem_cons_self)
        exact absurd hidden (by simp [visible])
      | cons second others =>
        obtain ⟨rfl, further⟩ := List.cons.inj behind
        exact .escaped single visible (inductionHypothesis further)
  | @reference name rest ordinary unknown _ inductionHypothesis =>
    cases text with
    | nil => exact .nil
    | cons head tail =>
      obtain ⟨rfl, behind⟩ := List.cons.inj whole
      rcases append_cons_cases behind with ⟨between, rfl, rfl⟩ | ⟨between, rfl, rfl⟩
      · exact .reference ordinary unknown (inductionHypothesis rfl)
      · exact absurd (blank '}' (by simp)) (by decide)

/-- A mild text stays mild without the blanks at its end. -/
theorem Mild.trimEnd (mild : Mild variableNames text) :
    Mild variableNames (Text.trimEnd text) := by
  have whole : Text.trimEnd text ++ (text.reverse.takeWhile Text.isBlank).reverse = text := by
    rw [Text.trimEnd, ← List.reverse_append, List.takeWhile_append_dropWhile, List.reverse_reverse]
  have blank : ∀ character ∈ (text.reverse.takeWhile Text.isBlank).reverse,
      Text.isBlank character = true := by
    intro character member
    exact List.all_eq_true.mp List.all_takeWhile character (List.mem_reverse.mp member)
  exact .of_append_blanks blank (whole.symm ▸ mild)

/-- A delimiter is visible. -/
theorem isBlank_of_isDelimiter {character : Char} (delimiter : isDelimiter character = true) :
    Text.isBlank character = false := by
  simp only [isDelimiter, Bool.or_eq_true, beq_iff_eq] at delimiter
  rcases delimiter with ((rfl | rfl) | rfl) | rfl <;> decide

/-- A reference to no variable is not a known one, as far as the names of variables hold no
closing brace. -/
theorem knownReference?_eq_none {name rest : Text} (closed : ∀ other ∈ variableNames, '}' ∉ other)
    (ordinary : Ordinary name) (unknown : name ∉ variableNames) :
    knownReference? variableNames (name ++ '}' :: rest) = none := by
  refine Option.eq_none_iff_forall_ne_some.mpr fun parts known => ?_
  obtain ⟨listed, same⟩ := eq_append_of_knownReference? known
  obtain ⟨found, _⟩ := Text.parts_eq_of_mark same ordinary.brace_absent (closed _ listed)
  exact unknown (found ▸ listed)

/-- Protection keeps a mild text mild, and what it returns stands for itself inside quotes.

Proof: by induction on the text. Each of its parts passes as it is, or as one character with a
backslash in front, which the reader of strings then takes together. -/
theorem Mild.protectAfter (scope : Scope) (closed : ∀ name ∈ scope.bindings.keys, '}' ∉ name)
    (mild : Mild scope.bindings.keys text) {seen : Text} (unescaped : seen.head? ≠ some '\\') :
    Mild scope.bindings.keys
        (protectAfter scope.functions.keys scope.bindings.keys seen text) ∧
      ∀ behind value after, Reads scope behind value after →
        Reads scope (protectAfter scope.functions.keys scope.bindings.keys seen text ++ behind)
          (protectAfter scope.functions.keys scope.bindings.keys seen text ++ value) after := by
  induction mild generalizing seen with
  | nil =>
    rw [protectAfter.eq_def]
    exact ⟨.nil, fun _ _ _ reads => reads⟩
  | @bare first rest notBrace notBackslash _ inductionHypothesis =>
    have unescaped' : (first :: seen).head? ≠ some '\\' := by simpa using notBackslash
    obtain ⟨kept, fits⟩ := inductionHypothesis unescaped'
    rcases protectAfter_cases unescaped notBackslash notBrace rest with
      ⟨delimiter, guarded⟩ | ⟨plain, passed⟩
    · rw [guarded]
      exact ⟨.escaped notBackslash (isBlank_of_isDelimiter delimiter) kept,
        fun behind value after reads => (fits behind value after reads).escaped first⟩
    · rw [passed]
      exact ⟨.bare notBrace notBackslash kept,
        fun behind value after reads => (fits behind value after reads).plain plain⟩
  | @escaped second rest single visible _ inductionHypothesis =>
    have unescaped' : (second :: '\\' :: seen).head? ≠ some '\\' := by simpa using single
    obtain ⟨kept, fits⟩ := inductionHypothesis unescaped'
    rw [protectAfter_backslash, protectAfter_escaped]
    exact ⟨.escaped single visible kept,
      fun behind value after reads => (fits behind value after reads).escaped second⟩
  | @reference name rest ordinary unknown _ inductionHypothesis =>
    have unescaped' : ('}' :: (name.reverse ++ '{' :: seen)).head? ≠ some '\\' := by simp
    obtain ⟨kept, fits⟩ := inductionHypothesis unescaped'
    rw [protectAfter_brace (Or.inr (knownReference?_eq_none closed ordinary unknown)),
      protectAfter_ordinary_append ordinary, protectAfter_closing]
    refine ⟨.reference ordinary unknown kept, fun behind value after reads => ?_⟩
    have embedded := (fits behind value after reads).embedded ordinary.brace_absent
      ordinary.quote_absent
    rw [scope.referenceText_of_not_mem unknown] at embedded
    simpa using embedded

/-- No backslash stands before the start of a text. -/
theorem bare_nil : ([] : Text).head? ≠ some '\\' := by
  simp

/-- A function that has a mild result for all mild arguments. -/
def KeepsMild (variableNames : List Text) (function : TextFunction) : Prop :=
  ∀ arguments, (∀ argument ∈ arguments, Mild variableNames argument) →
    ∃ result, function arguments = some result ∧ Mild variableNames result

/-- An argument that is not given counts as empty, and is mild as such. -/
theorem argumentAt_mild {arguments : List Text}
    (mild : ∀ argument ∈ arguments, Mild variableNames argument) (position : Nat) :
    Mild variableNames (argumentAt arguments position) := by
  rw [argumentAt, List.getD_eq_getElem?_getD]
  cases given : arguments[position]? with
  | none => exact .nil
  | some argument => exact mild argument (List.mem_of_getElem? given)

/-- A text under a condition is mild if the text is. -/
theorem opt_keepsMild : KeepsMild variableNames opt := by
  intro arguments mild
  refine ⟨_, rfl, ?_⟩
  split
  · exact argumentAt_mild mild 0
  · exact .nil

/-- A word in the plural is mild if the word and its ending are. -/
theorem plur_keepsMild : KeepsMild variableNames plur := by
  intro arguments mild
  have word : Mild variableNames (Text.trimEnd (argumentAt arguments 0)) :=
    (argumentAt_mild mild 0).trimEnd
  have ending : Mild variableNames (arguments.getD 2 ['s']) := by
    rw [List.getD_eq_getElem?_getD]
    cases given : arguments[2]? with
    | none => exact .bare (by decide) (by decide) .nil
    | some argument => exact mild argument (List.mem_of_getElem? given)
  refine ⟨_, rfl, ?_⟩
  split
  · exact word
  · exact word.append ending

/-- A choice between two texts is mild if both are. -/
theorem trn_keepsMild : KeepsMild variableNames trn := by
  intro arguments mild
  refine ⟨_, rfl, ?_⟩
  split
  · exact argumentAt_mild mild 1
  · exact argumentAt_mild mild 2

/-- The functions that are always at hand keep texts mild. -/
theorem builtins_keepsMild {name : Text} {function : TextFunction}
    (known : Registry.builtins.find? name = some function) : KeepsMild variableNames function := by
  simp only [Registry.builtins, Dictionary.ofList, List.foldl_cons, List.foldl_nil,
    Dictionary.find?_insert] at known
  split at known
  · exact Option.some.inj known ▸ trn_keepsMild
  · split at known
    · exact Option.some.inj known ▸ plur_keepsMild
    · split at known
      · exact Option.some.inj known ▸ opt_keepsMild
      · exact absurd known (by simp [Dictionary.empty, Dictionary.find?])

/-- A scope in which nothing makes a text wild: its functions keep texts mild, its values are
mild, and the names of its variables hold no closing brace. -/
structure MildScope (scope : Scope) : Prop where
  kept : ∀ name function, scope.functions.find? name = some function →
    KeepsMild scope.bindings.keys function
  values : ∀ name value, scope.bindings.find? name = some value →
    Mild scope.bindings.keys value.text
  closed : ∀ name ∈ scope.bindings.keys, '}' ∉ name

variable {scope : Scope}

/-- In a mild scope, a reference to an ordinary name stands for a mild text. -/
theorem MildScope.referenceText (mild : MildScope scope) {name : Text} (ordinary : Ordinary name) :
    Mild scope.bindings.keys (scope.referenceText name) := by
  by_cases known : name ∈ scope.bindings.keys
  · obtain ⟨value, bound⟩ := Dictionary.mem_keys_iff.mp known
    rw [scope.referenceText_of_find? bound]
    exact mild.values name value bound
  · rw [scope.referenceText_of_not_mem known]
    exact .reference ordinary known .nil

mutual

/-- In a mild scope a tree stands for a mild text, and all its calls have mild results. -/
theorem Tree.mild (mild : MildScope scope) (tree : Tree)
    (wellFormed : tree.WellFormed scope.functions.keys) :
    Mild scope.bindings.keys (tree.value scope) ∧
      ∀ result ∈ tree.results scope, ∃ text, result = some text ∧
        Mild scope.bindings.keys text := by
  cases tree with
  | nil => exact ⟨.nil, by simp [Tree.results]⟩
  | literal text rest =>
    obtain ⟨literal, others⟩ := wellFormed
    obtain ⟨value, results⟩ := rest.mild mild others
    exact ⟨literal.ordinary.mild.append value, results⟩
  | reference name rest =>
    obtain ⟨ordinary, others⟩ := wellFormed
    obtain ⟨value, results⟩ := rest.mild mild others
    exact ⟨(mild.referenceText ordinary).append value, results⟩
  | call function operands rest =>
    obtain ⟨listed, _, inner, _, others⟩ := wellFormed
    obtain ⟨values, innerResults⟩ := operands.mild mild inner
    obtain ⟨value, results⟩ := rest.mild mild others
    obtain ⟨apply, found⟩ := Dictionary.mem_keys_iff.mp listed
    obtain ⟨result, applied, mildResult⟩ := mild.kept function apply found _ values
    have returned : scope.resultOf? function (operands.values scope) = some result := by
      rw [Scope.resultOf?, found, Option.bind_some, applied]
    refine ⟨?_, forall_results_call.mpr ⟨innerResults, ⟨result, returned, mildResult⟩, results⟩⟩
    have kept := (mildResult.protectAfter scope mild.closed bare_nil).1
    rw [Tree.value, Scope.callText, returned, Option.getD_some]
    exact Mild.append kept value

/-- In a mild scope operands stand for mild texts, and all the calls in them have mild
results. -/
theorem Operands.mild (mild : MildScope scope) (operands : Operands)
    (wellFormed : operands.WellFormed scope.functions.keys) :
    (∀ value ∈ operands.values scope, Mild scope.bindings.keys value) ∧
      ∀ result ∈ operands.results scope, ∃ text, result = some text ∧
        Mild scope.bindings.keys text := by
  cases operands with
  | nil => exact ⟨by simp [Operands.values], by simp [Operands.results]⟩
  | reference name rest =>
    obtain ⟨ordinary, others⟩ := wellFormed
    obtain ⟨values, results⟩ := rest.mild mild others
    exact ⟨List.forall_mem_cons.mpr ⟨mild.referenceText ordinary, values⟩, results⟩
  | quoted body rest =>
    obtain ⟨inner, others⟩ := wellFormed
    obtain ⟨value, innerResults⟩ := body.mild mild inner
    obtain ⟨values, results⟩ := rest.mild mild others
    exact ⟨List.forall_mem_cons.mpr ⟨value, values⟩,
      forall_results_quoted.mpr ⟨innerResults, results⟩⟩

end

/-- In a mild scope every written tree is rendered.

Proof: the results of its calls are all there and mild. Protected, a mild text stands for itself
inside quotes, so resolving the calls turns the written form into the resolved text. -/
theorem exists_render_written (plain : ∀ name ∈ scope.functions.keys, PlainName name)
    (apart : NoneEndsAnother scope.functions.keys) (mild : MildScope scope) (tree : Tree)
    (wellFormed : tree.WellFormed scope.functions.keys) :
    ∃ shown, render scope tree.written = .ok shown := by
  have fit : AllFit scope (tree.results scope) := by
    intro result member
    obtain ⟨text, rfl, quiet⟩ := (tree.mild mild wellFormed).2 result member
    exact ⟨text, rfl, (quiet.protectAfter scope mild.closed bare_nil).2⟩
  obtain ⟨_, resolved⟩ := tree.resolveCalls_written plain wellFormed fit
    (tree.callSites_written plain apart wellFormed)
  exact ⟨_, by rw [render, resolved, Except.map]⟩

end Phrasebook.Template
