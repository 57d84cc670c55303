import Mathlib
import Phrasebook.Proofs.Dictionaries
import Phrasebook.Proofs.Levels
import Phrasebook.Proofs.Neutral
import Phrasebook.Proofs.Sites
import Phrasebook.Template.Rendering

/-!
# Running text

A template in which no call begins is rendered in two passes: the values of variables are put
in, and then one level of escaping is stripped. The second pass goes over the values, too.

As long as the values hold no backslash, the two passes do the work of a single reading from the
left to the right, which decides at each run of backslashes and at each brace what becomes of it.
A value that does hold one loses it in front of a delimiter, so it comes out unchanged exactly if
no delimiter in it is escaped. The same rule tells which texts a template can write literally.
-/

namespace Phrasebook.Template

variable {scope : Scope} {bindings : Dictionary Value} {names : List Text}

/-- No call begins in a text in which every colon is escaped, whatever the functions are
called: the backslash would be the last character of the name. -/
theorem callSites_eq_nil_of_escaped {text : Text}
    (escaped : ∀ before after, text = before ++ ':' :: after → before.getLast? = some '\\') :
    callSites names text = [] := by
  apply List.eq_nil_iff_forall_not_mem.mpr
  intro site member
  obtain ⟨before, after, rfl, _, name, _, begins⟩ := mem_callSites_iff.mp member
  obtain ⟨nonempty, unescaped, opener, rest, _, rfl⟩ := startsCall_eq_true_iff.mp begins
  have last := escaped (before ++ name) (opener :: rest) (by rw [List.append_assoc])
  rw [List.getLast?_append_of_ne_nil _ nonempty] at last
  exact unescaped last

/-- Without calls, rendering only finishes the template. -/
theorem render_of_callSites_nil {template : Text}
    (silent : callSites scope.functions.keys template = []) :
    render scope template = .ok (finish scope.bindings template) := by
  rw [render, resolveCalls, silent]
  rfl

/-- What a text stands for that follows a run of backslashes, read once from the left to the
right.

A delimiter behind backslashes stands for itself, with one of them left if there are several. A
brace behind none opens a reference, if a variable has the name up to the next closing brace;
then its value is put down and reading goes on behind that brace. Everything else stands for
itself. -/
def readOnceAfter (bindings : Dictionary Value) (run : Nat) (text : Text) : Text :=
  match text with
  | [] => List.replicate run '\\'
  | first :: rest =>
    if first = '\\' then readOnceAfter bindings (run + 1) rest
    else if first = '{' ∧ run = 0 then
      match bound : boundReference? bindings rest with
      | some (value, after) =>
        have : after.length < rest.length := length_of_boundReference? bound
        value.text ++ readOnceAfter bindings 0 after
      | none => '{' :: readOnceAfter bindings 0 rest
    else if isDelimiter first then
      (if 1 < run then ['\\'] else []) ++ first :: readOnceAfter bindings 0 rest
    else List.replicate run '\\' ++ first :: readOnceAfter bindings 0 rest
termination_by text.length
decreasing_by
  all_goals simp_wf
  all_goals omega

/-- What a text without calls stands for. -/
def readOnce (bindings : Dictionary Value) (text : Text) : Text :=
  readOnceAfter bindings 0 text

/-- No value of a variable holds a backslash. -/
def BackslashFree (bindings : Dictionary Value) : Prop :=
  ∀ name value, bindings.find? name = some value → '\\' ∉ value.text

/-- The value that a reference stands for is that of some variable. -/
theorem exists_find?_of_boundReference? {text after : Text} {value : Value}
    (bound : boundReference? bindings text = some (value, after)) :
    ∃ name, bindings.find? name = some value := by
  rw [boundReference?] at bound
  split at bound
  · rename_i name remaining broken
    obtain ⟨found, known, same⟩ := Option.map_eq_some_iff.mp bound
    exact ⟨name, (Prod.mk.inj same).1 ▸ known⟩
  · simp at bound

/-- Substitution passes over a character that is no bare brace, also behind a run of
backslashes. -/
theorem substituteAfter_run_cons {run : Nat} {first : Char} (single : first ≠ '\\')
    (passes : ¬(first = '{' ∧ run = 0)) (rest : Text) :
    substituteAfter bindings (decide (0 < run)) (first :: rest) =
      first :: substituteAfter bindings false rest := by
  have free : first ≠ '{' ∨ decide (0 < run) = true := by
    by_cases brace : first = '{'
    · have escaped : run ≠ 0 := by
        intro nothing
        exact passes ⟨brace, nothing⟩
      exact Or.inr (by simpa using Nat.pos_of_ne_zero escaped)
    · exact Or.inl brace
  have bare : (first == '\\') = false := by simpa using single
  rw [substituteAfter_cons free, bare]

/-- Substituting and then stripping is reading once, if no value holds a backslash.

The induction follows the reading. A run of backslashes escapes the brace behind it from both
passes alike, and where a value is put in, no run is pending, so the second pass finds none at
either seam. -/
theorem stripAfter_substituteAfter (clean : BackslashFree bindings) (run : Nat) (text : Text) :
    stripAfter run (substituteAfter bindings (decide (0 < run)) text) =
      readOnceAfter bindings run text := by
  fun_induction readOnceAfter bindings run text with
  | case1 run =>
    rw [substituteAfter.eq_def]
    rfl
  | case2 run rest inductionHypothesis =>
    rw [substituteAfter_cons (Or.inl (by decide)), stripAfter, if_pos rfl,
      ← inductionHypothesis]
    simp
  | case3 run first rest single reference value after bound _ inductionHypothesis =>
    obtain ⟨rfl, rfl⟩ := reference
    obtain ⟨name, known⟩ := exists_find?_of_boundReference? bound
    rw [decide_eq_false (Nat.lt_irrefl 0)] at inductionHypothesis ⊢
    rw [substituteAfter_bound bound, ← inductionHypothesis]
    exact strip_append_of_not_mem (clean name value known) _
  | case4 run first rest single reference unbound inductionHypothesis =>
    obtain ⟨rfl, rfl⟩ := reference
    rw [decide_eq_false (Nat.lt_irrefl 0)] at inductionHypothesis ⊢
    rw [substituteAfter_unbound unbound, ← inductionHypothesis]
    rfl
  | case5 run first rest single passes delimiter inductionHypothesis =>
    rw [substituteAfter_run_cons single passes, stripAfter, if_neg single, if_pos delimiter,
      ← inductionHypothesis]
    rfl
  | case6 run first rest single passes delimiter inductionHypothesis =>
    rw [substituteAfter_run_cons single passes, stripAfter, if_neg single, if_neg delimiter,
      ← inductionHypothesis]
    rfl

/-- A template in which no call begins is read once, from the left to the right, and trimmed, if
no value holds a backslash.

Proof: without calls only substituting, stripping and trimming are left, and the first two are
one reading. -/
theorem render_running_text (scope : Scope) (template : Text)
    (silent : callSites scope.functions.keys template = [])
    (clean : BackslashFree scope.bindings) :
    render scope template = .ok (Text.trim (readOnce scope.bindings template)) := by
  have read : strip (substitute scope.bindings template) = readOnce scope.bindings template :=
    stripAfter_substituteAfter clean 0 template
  rw [render_of_callSites_nil silent, finish, read]

/-- Escaped and bare braces, runs of backslashes before delimiters and before another character,
and a value with delimiters at both seams are read in one go. -/
theorem render_running_text_seams :
    let scope : Scope :=
      ⟨Dictionary.ofList [(['x'], .string [':', '{', 'x', '}', '"'])],
        Dictionary.ofList [(['f'], fun arguments => some arguments.flatten)]⟩
    let template : Text :=
      ['f', '\\', ':', '{', 'x', '}', '\\', '\\', '{', 'x', '}', '{', 'y', '{', 'x', '}',
        '\\', 'a', '\\']
    callSites scope.functions.keys template = [] ∧ BackslashFree scope.bindings ∧
      render scope template =
        .ok ['f', ':', ':', '{', 'x', '}', '"', '\\', '{', 'x', '}', '{', 'y', ':', '{', 'x', '}',
          '"', '\\', 'a', '\\'] := by
  intro scope template
  have silent : callSites scope.functions.keys template = [] := by decide
  have clean : BackslashFree scope.bindings := by
    intro name value known
    simp only [scope, Dictionary.ofList, List.foldl_cons, List.foldl_nil,
      Dictionary.find?_insert] at known
    split at known
    · obtain rfl := Option.some.inj known
      decide
    · simp [Dictionary.empty, Dictionary.find?] at known
  have read : Text.trim (readOnce scope.bindings template) =
      ['f', ':', ':', '{', 'x', '}', '"', '\\', '{', 'x', '}', '{', 'y', ':', '{', 'x', '}',
        '"', '\\', 'a', '\\'] := by
    cbv
  exact ⟨silent, clean, read ▸ render_running_text scope template silent clean⟩

/-- Substitution changes nothing in an ordinary text. -/
theorem substituteAfter_ordinary {text : Text} (ordinary : Ordinary text) :
    substituteAfter bindings false text = text := by
  have nothing : substituteAfter bindings false [] = [] := by rw [substituteAfter.eq_def]
  have kept : substituteAfter bindings false (text ++ []) =
      text ++ substituteAfter bindings false [] := substituteAfter_neutral ordinary.neutral []
  rwa [nothing, List.append_nil] at kept

/-- A value that stands between two ordinary texts comes out stripped. So it is put down unchanged
exactly if no delimiter in it stands directly behind a backslash.

Proof: no call begins, since there is no colon, and substitution puts the value in. Stripping
keeps the ordinary texts, and takes a backslash out of the value unless it keeps that, too;
trimming hides no backslash. -/
theorem value_unchanged_iff (scope : Scope) (before name after value : Text)
    (ordinaryBefore : Ordinary before) (ordinaryName : Ordinary name)
    (ordinaryAfter : Ordinary after) (bound : scope.bindings.find? name = some (.string value)) :
    render scope (before ++ ('{' :: name ++ ['}'] ++ after)) =
        .ok (Text.trim (before ++ strip value ++ after)) ∧
      (render scope (before ++ ('{' :: name ++ ['}'] ++ after)) =
          .ok (Text.trim (before ++ value ++ after)) ↔
        LevelAtMost 0 value) := by
  have silent :
      callSites scope.functions.keys (before ++ ('{' :: name ++ ['}'] ++ after)) = [] := by
    apply callSites_eq_nil_of_escaped
    intro front back whole
    have member : ':' ∈ before ++ ('{' :: name ++ ['}'] ++ after) := by
      rw [whole]
      simp
    simp [ordinaryBefore.colon_absent, ordinaryName.colon_absent,
      ordinaryAfter.colon_absent] at member
  have stands : scope.referenceText name = value := scope.referenceText_of_find? bound
  have substituted : substitute scope.bindings (before ++ ('{' :: name ++ ['}'] ++ after)) =
      before ++ (value ++ after) := by
    rw [substitute, substituteAfter_neutral ordinaryBefore.neutral,
      substituteAfter_reference scope ordinaryName, substituteAfter_ordinary ordinaryAfter, stands]
  have stripped : strip (before ++ (value ++ after)) = before ++ strip value ++ after := by
    rw [strip_append_of_not_mem ordinaryBefore.backslash_absent, strip_eq_relevel,
      relevel_append_ordinary ordinaryAfter, ← strip_eq_relevel, List.append_assoc]
  have rendered : render scope (before ++ ('{' :: name ++ ['}'] ++ after)) =
      .ok (Text.trim (before ++ strip value ++ after)) := by
    rw [render_of_callSites_nil silent, finish, substituted, stripped]
  constructor
  · exact rendered
  · rw [rendered, Except.ok.injEq, ← strip_eq_self_iff, strip_eq_relevel]
    exact trim_relevel_iff strippedLevel_le before value after

/-- A value with every delimiter, and with backslashes before other characters and at its end,
is put down unchanged. -/
theorem value_unchanged_backslashes :
    let value : Text := [':', '"', '{', 'x', '}', '\\', 'n', '\\', '\\']
    let scope : Scope := ⟨Dictionary.ofList [(['x'], .string value)], .empty⟩
    Ordinary ['a'] ∧ Ordinary ['x'] ∧ Ordinary ['b'] ∧
      scope.bindings.find? ['x'] = some (.string value) ∧
      render scope (['a'] ++ ('{' :: ['x'] ++ ['}'] ++ ['b'])) =
        .ok ['a', ':', '"', '{', 'x', '}', '\\', 'n', '\\', '\\', 'b'] := by
  intro value scope
  have bound : scope.bindings.find? ['x'] = some (.string value) := by decide
  have low : LevelAtMost 0 value := by
    rw [← strip_eq_self_iff]
    decide
  have trimmed : Text.trim (['a'] ++ value ++ ['b']) =
      ['a', ':', '"', '{', 'x', '}', '\\', 'n', '\\', '\\', 'b'] := by
    decide
  obtain ⟨_, unchanged⟩ := value_unchanged_iff scope ['a'] ['x'] ['b'] value (by decide)
    (by decide) (by decide) bound
  exact ⟨by decide, by decide, by decide, bound, trimmed ▸ unchanged.mpr low⟩

/-- Not every value is put down unchanged: an escaped delimiter in it loses a backslash. -/
theorem value_changed_escaped :
    let value : Text := ['\\', ':']
    let scope : Scope := ⟨Dictionary.ofList [(['x'], .string value)], .empty⟩
    Ordinary [] ∧ Ordinary ['x'] ∧ scope.bindings.find? ['x'] = some (.string value) ∧
      render scope ([] ++ ('{' :: ['x'] ++ ['}'] ++ [])) ≠
        .ok (Text.trim ([] ++ value ++ [])) := by
  intro value scope
  have rendered : render scope ([] ++ ('{' :: ['x'] ++ ['}'] ++ [])) = .ok [':'] := by cbv
  have trimmed : Text.trim ([] ++ value ++ []) = ['\\', ':'] := by decide
  refine ⟨by decide, by decide, by decide, ?_⟩
  rw [rendered, trimmed]
  decide

/-- A text is written literally character by character. -/
theorem literally_cons (first : Char) (rest : Text) :
    literally (first :: rest) =
      (if isDelimiter first then ['\\', first] else [first]) ++ literally rest :=
  List.flatMap_cons

/-- In a literally written text every delimiter is escaped. -/
theorem getLast?_of_literally_eq {text before after : Text} {delimiter : Char}
    (marked : isDelimiter delimiter = true)
    (whole : literally text = before ++ delimiter :: after) : before.getLast? = some '\\' := by
  induction text generalizing before with
  | nil => simp [literally] at whole
  | cons first rest inductionHypothesis =>
    rw [literally_cons] at whole
    rcases append_cons_cases whole with ⟨between, written, _⟩ | ⟨between, rfl, remaining⟩
    · by_cases marks : isDelimiter first = true
      · rw [if_pos marks] at written
        cases before with
        | nil =>
          obtain ⟨rfl, _⟩ := List.cons.inj written
          exact absurd marked (by decide)
        | cons head others =>
          obtain ⟨rfl, behind⟩ := List.cons.inj written
          cases others with
          | nil => rfl
          | cons second further => simp at behind
      · rw [if_neg marks] at written
        have member : delimiter ∈ [first] := by simp [written]
        exact absurd (List.mem_singleton.mp member ▸ marked) marks
    · have last := inductionHypothesis remaining
      rw [List.getLast?_append, last]
      rfl

/-- Substitution finds no reference in a literally written text. -/
theorem substituteAfter_literally (escaped : Bool) (text : Text) :
    substituteAfter bindings escaped (literally text) = literally text := by
  induction text generalizing escaped with
  | nil =>
    rw [literally, List.flatMap_nil, substituteAfter.eq_def]
  | cons first rest inductionHypothesis =>
    rw [literally_cons]
    by_cases delimiter : isDelimiter first = true
    · rw [if_pos delimiter, List.cons_append, List.singleton_append,
        substituteAfter_cons (Or.inl (by decide)), beq_self_eq_true,
        substituteAfter_cons (Or.inr rfl), inductionHypothesis]
    · have notBrace : first ≠ '{' := by
        rintro rfl
        exact delimiter rfl
      rw [if_neg delimiter, List.singleton_append, substituteAfter_cons (Or.inl notBrace),
        inductionHypothesis]

/-- A text can be written literally, with one more backslash before each delimiter, exactly if no
delimiter in it stands behind more than one backslash. This is so whatever the variables and the
functions are, and whatever they are called.

Proof: every delimiter of the written form is escaped, so no call begins and no reference is
found. Stripping then undoes the writing for levels zero and one, and leaves one level of any
higher one. -/
theorem literally_shown_iff (scope : Scope) (text : Text) :
    render scope (literally text) = .ok (Text.trim text) ↔ LevelAtMost 1 text := by
  have silent : callSites scope.functions.keys (literally text) = [] :=
    callSites_eq_nil_of_escaped fun _ _ whole => getLast?_of_literally_eq rfl whole
  have stripped : strip (literally text) = relevel (strippedLevel ∘ (· + 1)) text := by
    rw [strip_eq_relevel, literally_eq_relevel, relevel_relevel]
  have shows := trim_relevel_iff strippedLevel_succ_le [] text []
  rw [List.nil_append, List.nil_append, List.append_nil, List.append_nil] at shows
  rw [render_of_callSites_nil silent, finish, substitute, substituteAfter_literally, stripped,
    Except.ok.injEq, shows]
  exact relevel_eq_self_iff strippedLevel_succ_eq_self_iff text

/-- Of two backslashes before a delimiter one is lost. -/
example : render ⟨.empty, .empty⟩ (literally ['\\', '\\', ':']) = .ok ['\\', ':'] := by cbv

end Phrasebook.Template
