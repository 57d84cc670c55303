import Mathlib
import Phrasebook.Proofs.Neutral
import Phrasebook.Proofs.Resolution
import Phrasebook.Proofs.Trees

/-!
# Rendering evaluates

Rendering a written tree gives what the tree stands for. The loop never sees the tree: it
resolves one site after the other in a text that changes on the way. From the last site to the
first, the calls behind a call are resolved before it, then those in its operands, and when its
own turn comes its operands are read as the values of their trees, because what was put into
them is neutral. The text behind the call does not begin with a colon or a backslash, so
nothing of it is taken for a further operand.
-/

namespace Phrasebook.Template

/-- All results are there, and each of them is tame. -/
def AllTame (results : List (Option Text)) : Prop :=
  ∀ result ∈ results, ∃ text, result = some text ∧ Tame text

/-- The text of a tree once its calls are resolved and its references are not. -/
def Tree.resolved (scope : Scope) : Tree → Text
  | .nil => []
  | .literal text rest => text ++ rest.resolved scope
  | .reference name rest => '{' :: name ++ ['}'] ++ rest.resolved scope
  | .call function operands rest =>
    scope.callText function (operands.values scope) ++ rest.resolved scope

/-- The text of operands once the calls in them are resolved, each of them behind a colon. -/
def Operands.resolved (scope : Scope) : Operands → Text
  | .nil => []
  | .reference name rest => ':' :: '{' :: name ++ ['}'] ++ rest.resolved scope
  | .quoted body rest => ':' :: '"' :: body.resolved scope ++ ['"'] ++ rest.resolved scope

/-- A text that a call in front of it does not run into. -/
def Detached (after : Text) : Prop :=
  after.head? ≠ some ':' ∧ after.head? ≠ some '\\'

/-- A result that, once it is protected, stands for itself inside quotes, whatever follows. -/
def Scope.Fits (scope : Scope) (result : Text) : Prop :=
  ∀ text value after, Reads scope text value after →
    Reads scope (protect scope.functions.keys scope.bindings.keys result ++ text)
      (protect scope.functions.keys scope.bindings.keys result ++ value) after

/-- All results are there, and each of them fits into quotes. -/
def AllFit (scope : Scope) (results : List (Option Text)) : Prop :=
  ∀ result ∈ results, ∃ text, result = some text ∧ scope.Fits text

variable {scope : Scope} {names : List Text}

/-- Tame results fit into quotes, because their protected forms are neutral. -/
theorem AllTame.allFit {results : List (Option Text)} (tame : AllTame results) :
    AllFit scope results := by
  intro result member
  obtain ⟨text, rfl, quiet⟩ := tame result member
  exact ⟨text, rfl, fun _ _ _ reads => reads.neutral quiet.neutral⟩

/-- The results in quoted operands are those of the first body and those of the other operands. -/
theorem forall_results_quoted {property : Option Text → Prop} {body : Tree} {rest : Operands} :
    (∀ result ∈ (Operands.quoted body rest).results scope, property result) ↔
      (∀ result ∈ body.results scope, property result) ∧
        ∀ result ∈ rest.results scope, property result :=
  List.forall_mem_append

/-- The results of a call are those in its operands, its own, and those behind it. -/
theorem forall_results_call {property : Option Text → Prop} {function : Text}
    {operands : Operands} {rest : Tree} :
    (∀ result ∈ (Tree.call function operands rest).results scope, property result) ↔
      (∀ result ∈ operands.results scope, property result) ∧
        property (scope.resultOf? function (operands.values scope)) ∧
        ∀ result ∈ rest.results scope, property result := by
  rw [Tree.results, List.forall_mem_append, List.forall_mem_cons]

/-- What a call with a tame result stands for is neutral. -/
theorem callText_neutral {function : Text} {arguments : List Text}
    (returned : ∃ text, scope.resultOf? function arguments = some text ∧ Tame text) :
    Neutral (scope.callText function arguments) := by
  obtain ⟨result, found, tame⟩ := returned
  rw [Scope.callText, found, Option.getD_some]
  exact tame.neutral

/-- The resolved text of a tree is read in quotes as what the tree stands for. -/
theorem Tree.reads (tree : Tree) (wellFormed : tree.WellFormed names)
    (fit : AllFit scope (tree.results scope)) (after : Text) :
    Reads scope (tree.resolved scope ++ '"' :: after) (tree.value scope) after := by
  cases tree with
  | nil => exact .closing
  | literal text rest =>
    obtain ⟨literal, others⟩ := wellFormed
    rw [Tree.resolved, List.append_assoc]
    exact (rest.reads others fit after).neutral literal.ordinary.neutral
  | reference name rest =>
    obtain ⟨ordinary, others⟩ := wellFormed
    rw [Tree.resolved, List.append_assoc]
    exact (rest.reads others fit after).reference ordinary
  | call function operands rest =>
    obtain ⟨_, _, _, _, others⟩ := wellFormed
    obtain ⟨_, ⟨result, returned, fits⟩, remaining⟩ := forall_results_call.mp fit
    rw [Tree.resolved, Tree.value, List.append_assoc, Scope.callText, returned, Option.getD_some]
    exact fits _ _ _ (rest.reads others remaining after)

/-- Substitution turns the resolved text of a tree into what the tree stands for. -/
theorem Tree.substituteAfter_resolved (tree : Tree) (wellFormed : tree.WellFormed names)
    (tame : AllTame (tree.results scope)) :
    substituteAfter scope.bindings false (tree.resolved scope) = tree.value scope := by
  cases tree with
  | nil => rw [Tree.resolved, substituteAfter.eq_def, Tree.value]
  | literal text rest =>
    obtain ⟨literal, others⟩ := wellFormed
    rw [Tree.resolved, substituteAfter_neutral literal.ordinary.neutral,
      rest.substituteAfter_resolved others tame, Tree.value]
  | reference name rest =>
    obtain ⟨ordinary, others⟩ := wellFormed
    rw [Tree.resolved, substituteAfter_reference scope ordinary,
      rest.substituteAfter_resolved others tame, Tree.value]
  | call function operands rest =>
    obtain ⟨_, _, _, _, others⟩ := wellFormed
    obtain ⟨_, returned, remaining⟩ := forall_results_call.mp tame
    rw [Tree.resolved, substituteAfter_neutral (callText_neutral returned),
      rest.substituteAfter_resolved others remaining, Tree.value]

/-- No call directly in front of a tree runs into it. -/
theorem Tree.detached (tree : Tree) (wellFormed : tree.WellFormed names)
    (apart : ¬tree.BeginsWithCall) {after : Text} (detached : Detached after) :
    Detached (tree.resolved scope ++ after) := by
  cases tree with
  | nil => exact detached
  | literal text rest =>
    obtain ⟨⟨nonempty, ordinary⟩, _⟩ := wellFormed
    cases text with
    | nil => exact absurd rfl nonempty
    | cons first others =>
      obtain ⟨colon, _, _, _, backslash⟩ := isOrdinary_iff.mp (ordinary_cons.mp ordinary).1
      exact ⟨by simpa [Tree.resolved] using colon, by simpa [Tree.resolved] using backslash⟩
  | reference name rest => exact ⟨by simp [Tree.resolved], by simp [Tree.resolved]⟩
  | call function operands rest => exact absurd trivial apart

/-- A reference is read as an argument. -/
theorem readArgument_reference {name : Text} (ordinary : Ordinary name) (after : Text) :
    readArgument ('{' :: name ++ ['}'] ++ after) = .ok (some (.reference name, after)) := by
  have broken : Text.breakAt? '}' (name ++ '}' :: after) = some (name, after) :=
    Text.breakAt?_eq_some_iff.mpr ⟨rfl, ordinary.brace_absent⟩
  simp [readArgument, broken]

/-- A quoted text that is read with some value is an argument that stands for this value. -/
theorem Reads.readArgument {text value after : Text} (reads : Reads scope text value after) :
    ∃ argument, readArgument ('"' :: text) = .ok (some (argument, after)) ∧
      scope.argumentText argument = value := by
  obtain ⟨pieces, read, rfl⟩ := reads
  exact ⟨.quoted pieces, by simp [Template.readArgument, read], rfl⟩

/-- An operand is read as the first argument of a call, and the operands after it as the others.
The text behind the operands does not begin with a colon. -/
theorem readArguments_operand {first : Bool} {text after : Text} {argument : Argument}
    {rest : Operands}
    (read : readArgument text = .ok (some (argument, rest.resolved scope ++ after)))
    (ended : after.head? ≠ some ':')
    (others : rest ≠ .nil → ∃ written arguments, rest.resolved scope = ':' :: written ∧
      readArguments false (written ++ after) = .ok (arguments, after) ∧
      arguments.map scope.argumentText = rest.values scope) :
    ∃ arguments, readArguments first text = .ok (arguments, after) ∧
      arguments.map scope.argumentText = scope.argumentText argument :: rest.values scope := by
  by_cases last : rest = .nil
  · subst last
    exact ⟨[argument], readArguments_last read ended, rfl⟩
  · obtain ⟨written, arguments, begun, complete, values⟩ := others last
    rw [begun, List.cons_append] at read
    refine ⟨argument :: arguments, ?_, by rw [List.map_cons, values]⟩
    rw [readArguments_more read, complete]
    rfl

/-- The resolved operands of a call are read, behind their first colon, as arguments that stand
for the values of the operands. -/
theorem Operands.reads (operands : Operands) (some_ : operands ≠ .nil)
    (wellFormed : operands.WellFormed names) (fit : AllFit scope (operands.results scope))
    (first : Bool) {after : Text} (ended : after.head? ≠ some ':') :
    ∃ written arguments, operands.resolved scope = ':' :: written ∧
      readArguments first (written ++ after) = .ok (arguments, after) ∧
      arguments.map scope.argumentText = operands.values scope := by
  cases operands with
  | nil => exact absurd rfl some_
  | reference name rest =>
    obtain ⟨ordinary, others⟩ := wellFormed
    have read : readArgument ('{' :: name ++ ['}'] ++ rest.resolved scope ++ after) =
        .ok (some (.reference name, rest.resolved scope ++ after)) := by
      rw [List.append_assoc]
      exact readArgument_reference ordinary _
    obtain ⟨arguments, complete, values⟩ := readArguments_operand read ended fun more =>
      rest.reads more others fit false ended
    exact ⟨_, arguments, rfl, complete, values⟩
  | quoted body rest =>
    obtain ⟨inner, others⟩ := wellFormed
    obtain ⟨fitBody, fitRest⟩ := forall_results_quoted.mp fit
    obtain ⟨argument, read, value⟩ :=
      (body.reads inner fitBody (rest.resolved scope ++ after)).readArgument
    obtain ⟨arguments, complete, values⟩ := readArguments_operand read ended fun more =>
      rest.reads more others fitRest false ended
    refine ⟨_, arguments, rfl, ?_, by rw [values, value]; rfl⟩
    simpa using complete

/-- Resolving the calls at some sites, in this order, turns one text into another. -/
def Turns (scope : Scope) (sites : List Nat) (text next : Text) : Prop :=
  ∀ splices, ∃ others,
    sites.foldlM (Progress.step scope) ⟨text, splices⟩ = .ok ⟨next, others⟩

/-- Without sites nothing changes. -/
theorem Turns.nil (text : Text) : Turns scope [] text text :=
  fun splices => ⟨splices, rfl⟩

/-- Sites are resolved one group after the other. -/
theorem Turns.append {earlier later : List Nat} {text middle next : Text}
    (first : Turns scope earlier text middle) (second : Turns scope later middle next) :
    Turns scope (earlier ++ later) text next := by
  intro splices
  obtain ⟨others, reached⟩ := first splices
  obtain ⟨more, arrived⟩ := second others
  refine ⟨more, ?_⟩
  rw [List.foldlM_append, reached]
  exact arrived

/-- No escaped delimiter begins a text that a call in front of it does not run into. -/
theorem Detached.settle {left : Text} (detached : Detached left) (result : Text) :
    scope.settle result left = (result, left) := by
  have free : Trailing.of? left = none := by
    unfold Trailing.of?
    split
    · exact absurd rfl detached.2
    · exact absurd rfl detached.2
    · rfl
  rw [Scope.settle, free, if_neg (by simp)]

/-- A call that is read completely and has a result is replaced by its protected result, and
the text behind it stays. -/
theorem Turns.call {before after name written left result : Text} {arguments : List Argument}
    (named : readName? (before.getLast? == some '\\') after = some (name, written))
    (complete : readArguments true written = .ok (arguments, left))
    (returned : scope.resultOf? name (arguments.map scope.argumentText) = some result)
    (detached : Detached left) :
    Turns scope [Text.width before] (before ++ after)
      (before ++ (protect scope.functions.keys scope.bindings.keys result ++ left)) := by
  intro splices
  obtain ⟨apply, found, applied⟩ := Option.bind_eq_some_iff.mp returned
  obtain ⟨taken, replacement, rest, settled, _, resolved⟩ :=
    resolve_eq_ok scope named complete found applied
  obtain ⟨rfl, rfl⟩ := Prod.mk.inj ((detached.settle _).symm.trans settled)
  simp only [List.foldlM_cons, Progress.step, resolved, List.append_assoc]
  exact ⟨_, rfl⟩

mutual

/-- Resolving the calls of a tree turns its written form into its resolved text, wherever it is
written.

Proof: by recursion over the tree. At a call, the rest is resolved first, then the operands;
the call itself is then read with the values of its operands, and up to the rest. -/
theorem Tree.turns_of_allFit (plain : ∀ name ∈ scope.functions.keys, PlainName name)
    (tree : Tree) (wellFormed : tree.WellFormed scope.functions.keys)
    (fit : AllFit scope (tree.results scope))
    (before : Text) {after : Text} (detached : Detached after) :
    Turns scope (tree.sites (Text.width before)) (before ++ (tree.written ++ after))
      (before ++ (tree.resolved scope ++ after)) := by
  cases tree with
  | nil => exact .nil _
  | literal text rest =>
    obtain ⟨_, others⟩ := wellFormed
    have later := rest.turns_of_allFit plain others fit (before ++ text) detached
    rw [Text.width_append] at later
    simpa only [Tree.sites, Tree.written, Tree.resolved, List.append_assoc] using later
  | reference name rest =>
    obtain ⟨_, others⟩ := wellFormed
    have later := rest.turns_of_allFit plain others fit (before ++ ('{' :: name ++ ['}'])) detached
    rw [Text.width_append] at later
    simpa only [Tree.sites, Tree.written, Tree.resolved, List.append_assoc] using later
  | call function operands rest =>
    obtain ⟨listed, some_, inner, apart, others⟩ := wellFormed
    obtain ⟨fitOperands, ⟨result, returned, _⟩, fitRest⟩ := forall_results_call.mp fit
    have behind : Detached (rest.resolved scope ++ after) := rest.detached others apart detached
    -- The offsets are those of the written form, so each group is resolved while everything
    -- before it is still as written.
    have later := rest.turns_of_allFit plain others fitRest
      (before ++ (function ++ operands.written)) detached
    have within := operands.turns_of_allFit plain inner fitOperands (before ++ function)
      (rest.resolved scope ++ after)
    obtain ⟨written, arguments, begun, complete, values⟩ :=
      operands.reads some_ inner fitOperands true behind.1
    have named : readName? (before.getLast? == some '\\')
        (function ++ ':' :: (written ++ (rest.resolved scope ++ after))) =
        some (function, written ++ (rest.resolved scope ++ after)) :=
      (plain function listed).readName? _ _
    have itself := Turns.call named complete (by rw [values, returned]) behind
    have text : scope.callText function (operands.values scope) =
        protect scope.functions.keys scope.bindings.keys result := by
      rw [Scope.callText, returned, Option.getD_some]
    rw [Text.width_append] at later within
    simp only [begun, List.append_assoc, List.cons_append] at later within itself
    simpa only [Tree.sites, Tree.written, Tree.resolved, text, List.append_assoc] using
      later.append (within.append itself)

/-- Resolving the calls in the operands of a call turns their written form into their resolved
text. -/
theorem Operands.turns_of_allFit (plain : ∀ name ∈ scope.functions.keys, PlainName name)
    (operands : Operands) (wellFormed : operands.WellFormed scope.functions.keys)
    (fit : AllFit scope (operands.results scope)) (before after : Text) :
    Turns scope (operands.sites (Text.width before)) (before ++ (operands.written ++ after))
      (before ++ (operands.resolved scope ++ after)) := by
  cases operands with
  | nil => exact .nil _
  | reference name rest =>
    obtain ⟨_, others⟩ := wellFormed
    have later := rest.turns_of_allFit plain others fit
      (before ++ (':' :: '{' :: name ++ ['}'])) after
    rw [Text.width_append] at later
    simpa only [Operands.sites, Operands.written, Operands.resolved, List.append_assoc] using later
  | quoted body rest =>
    obtain ⟨inner, others⟩ := wellFormed
    obtain ⟨fitBody, fitRest⟩ := forall_results_quoted.mp fit
    have later := rest.turns_of_allFit plain others fitRest
      (before ++ (':' :: '"' :: body.written ++ ['"'])) after
    have closing : Detached ('"' :: (rest.resolved scope ++ after)) := ⟨by simp, by simp⟩
    have within := body.turns_of_allFit plain inner fitBody (before ++ [':', '"']) closing
    rw [Text.width_append] at later within
    simp only [List.append_assoc, List.cons_append, List.nil_append] at later within
    simpa only [Operands.sites, Operands.written, Operands.resolved, List.append_assoc,
      List.cons_append, List.nil_append] using later.append within

end

/-- In particular this is so if all results are tame. -/
theorem Tree.turns (plain : ∀ name ∈ scope.functions.keys, PlainName name) (tree : Tree)
    (wellFormed : tree.WellFormed scope.functions.keys) (tame : AllTame (tree.results scope))
    (before : Text) {after : Text} (detached : Detached after) :
    Turns scope (tree.sites (Text.width before)) (before ++ (tree.written ++ after))
      (before ++ (tree.resolved scope ++ after)) :=
  tree.turns_of_allFit plain wellFormed tame.allFit before detached

/-- Where the search finds just the calls of a written tree, the loop turns the tree into its
resolved text. -/
theorem Tree.resolveCalls_written (plain : ∀ name ∈ scope.functions.keys, PlainName name)
    (tree : Tree) (wellFormed : tree.WellFormed scope.functions.keys)
    (fit : AllFit scope (tree.results scope))
    (found : callSites scope.functions.keys tree.written = tree.sites 0) :
    ∃ splices, resolveCalls scope tree.written = .ok ⟨tree.resolved scope, splices⟩ := by
  have ended : Detached [] := ⟨by simp, by simp⟩
  have turned := tree.turns_of_allFit plain wellFormed fit [] ended
  rw [List.nil_append, List.nil_append, List.append_nil, List.append_nil] at turned
  obtain ⟨splices, reached⟩ := turned []
  refine ⟨splices, ?_⟩
  rw [resolveCalls, found]
  exact reached

/-- Rendering a written tree gives what the tree stands for, stripped and trimmed.

The tree is made of ordinary text, references and calls of registered functions, no two calls
directly in a row; the names of all functions are plain and none is the proper ending of
another. Whatever the variables are, it suffices that every call of the tree has a result, and
that the results are tame.

Proof: the sites of the written tree are the offsets of its calls, resolving them turns it into
its resolved text, and substitution turns that into what the tree stands for. -/
theorem render_written (scope : Scope) (plain : ∀ name ∈ scope.functions.keys, PlainName name)
    (apart : NoneEndsAnother scope.functions.keys) (tree : Tree)
    (wellFormed : tree.WellFormed scope.functions.keys) (tame : AllTame (tree.results scope)) :
    render scope tree.written = .ok (Text.trim (strip (tree.value scope))) := by
  have ended : Detached [] := ⟨by simp, by simp⟩
  have turned := tree.turns plain wellFormed tame [] ended
  rw [List.nil_append, List.nil_append, List.append_nil, List.append_nil] at turned
  obtain ⟨splices, reached⟩ := turned []
  have resolved : resolveCalls scope tree.written = .ok ⟨tree.resolved scope, splices⟩ := by
    rw [resolveCalls, tree.callSites_written plain apart wellFormed]
    exact reached
  rw [render, resolved, Except.map, finish, substitute,
    tree.substituteAfter_resolved wellFormed tame]

/-- A quoted operand with a call in it, whose result holds every delimiter but an opening brace,
is evaluated as a whole. -/
theorem render_written_nested :
    let scope : Scope :=
      ⟨Dictionary.ofList [(['x'], .string ['y'])],
        Dictionary.ofList [(['f'], fun arguments => some arguments.flatten),
          (['g'], fun _ => some ['"', ':', 'g', ':', '\\', '}'])]⟩
    let tree : Tree := .literal ['a'] (.call ['f']
      (.quoted (.literal ['b'] (.reference ['x'] (.call ['g'] (.reference ['z'] .nil) .nil)))
        (.reference ['x'] .nil)) (.literal ['!'] .nil))
    tree.WellFormed scope.functions.keys ∧ AllTame (tree.results scope) ∧
      render scope tree.written = .ok ['a', 'b', 'y', '"', ':', 'g', ':', '}', 'y', '!'] := by
  intro scope tree
  have plain : ∀ name ∈ scope.functions.keys, PlainName name := by decide
  have apart : NoneEndsAnother scope.functions.keys := by
    unfold NoneEndsAnother
    decide
  have wellFormed : tree.WellFormed scope.functions.keys := by
    have called : ['f'] ∈ scope.functions.keys ∧ ['g'] ∈ scope.functions.keys := by decide
    simp only [tree, Tree.WellFormed, Operands.WellFormed, Tree.BeginsWithCall, called, ne_eq,
      reduceCtorEq, not_false_eq_true, true_and, and_true]
    decide
  have results : tree.results scope =
      [some ['"', ':', 'g', ':', '\\', '}'],
        some ['b', 'y', '\\', '"', ':', 'g', '\\', ':', '\\', '}', 'y']] := by
    cbv
  have tame : AllTame (tree.results scope) := by
    rw [results]
    simp [AllTame, tame_cons, tame_nil]
  have value : Text.trim (strip (tree.value scope)) =
      ['a', 'b', 'y', '"', ':', 'g', ':', '}', 'y', '!'] := by
    cbv
  exact ⟨wellFormed, tame, value ▸ render_written scope plain apart tree wellFormed tame⟩

end Phrasebook.Template
