import Phrasebook.Proofs.Neutral
import Phrasebook.Proofs.Protection

/-!
# What protection writes

Protection goes through a result once and writes each character behind a backslash or behind
nothing; only a reference to a variable is written as a whole, with a backslash before either
brace. So a text keeps its characters and gains backslashes, and in particular it keeps its
closing braces: protection opens no reference, closes none, and leaves each first closing brace
the first one.
-/

namespace Phrasebook.Template

variable {functionNames variableNames : List Text}

/-- Protection lets ordinary characters pass. -/
theorem protectAfter_ordinary_append {name : Text} (ordinary : Ordinary name)
    (seen rest : Text) :
    protectAfter functionNames variableNames seen (name ++ rest) =
      name ++ protectAfter functionNames variableNames (name.reverse ++ seen) rest := by
  induction name generalizing seen with
  | nil => rfl
  | cons first others inductionHypothesis =>
    obtain ⟨plain, remaining⟩ := ordinary_cons.mp ordinary
    obtain ⟨colon, quote, brace, _, _⟩ := isOrdinary_iff.mp plain
    rw [List.cons_append, protectAfter.eq_def]
    simp [colon, quote, brace, inductionHypothesis remaining]

/-- Protection lets a closing brace pass. -/
theorem protectAfter_closing (seen rest : Text) :
    protectAfter functionNames variableNames seen ('}' :: rest) =
      '}' :: protectAfter functionNames variableNames ('}' :: seen) rest := by
  rw [protectAfter.eq_def]
  simp

/-- Protection escapes both braces of a reference to a variable. -/
theorem protectAfter_known {seen rest name after : Text} (bare : seen.head? ≠ some '\\')
    (known : knownReference? variableNames rest = some (name, after)) :
    protectAfter functionNames variableNames seen ('{' :: rest) =
      '\\' :: '{' :: (name ++ '\\' :: '}' ::
        protectAfter functionNames variableNames ('}' :: name.reverse ++ '{' :: seen) after) := by
  rw [protectAfter.eq_def]
  simp only [Char.reduceBEq, Bool.false_and, Bool.false_eq_true, if_false, BEq.rfl, Bool.true_and,
    Bool.not_eq_true', beq_eq_false_iff_ne, ne_eq, bare, not_false_eq_true, if_true]
  split <;> simp_all

/-- Protection lets a brace pass that is escaped or names no variable. -/
theorem protectAfter_brace {seen rest : Text}
    (free : seen.head? = some '\\' ∨ knownReference? variableNames rest = none) :
    protectAfter functionNames variableNames seen ('{' :: rest) =
      '{' :: protectAfter functionNames variableNames ('{' :: seen) rest := by
  rw [protectAfter.eq_def]
  by_cases bare : seen.head? = some '\\'
  · simp [bare]
  · have unknown : knownReference? variableNames rest = none := free.resolve_left bare
    simp only [Char.reduceBEq, Bool.false_and, Bool.false_eq_true, if_false, BEq.rfl,
      Bool.true_and, Bool.not_eq_true', beq_eq_false_iff_ne, ne_eq, bare, not_false_eq_true,
      if_true]
    split <;> simp_all

/-- Protection puts a backslash in front of a character or nothing, unless the character opens a
reference to a variable. -/
theorem protectAfter_cons_cases (functionNames variableNames : List Text) (seen : Text)
    (first : Char) (rest : Text) :
    (first = '{' ∧ seen.head? ≠ some '\\' ∧
        ∃ name after, knownReference? variableNames rest = some (name, after)) ∨
      ∃ guard, (guard = [] ∨ guard = ['\\']) ∧
        protectAfter functionNames variableNames seen (first :: rest) =
          guard ++ first :: protectAfter functionNames variableNames (first :: seen) rest := by
  by_cases bare : seen.head? = some '\\'
  · obtain ⟨earlier, rfl⟩ := List.head?_eq_some_iff.mp bare
    exact Or.inr ⟨[], Or.inl rfl, protectAfter_escaped earlier first rest⟩
  · by_cases backslash : first = '\\'
    · subst backslash
      exact Or.inr ⟨[], Or.inl rfl, protectAfter_backslash seen rest⟩
    · by_cases brace : first = '{'
      · subst brace
        cases known : knownReference? variableNames rest with
        | none => exact Or.inr ⟨[], Or.inl rfl, protectAfter_brace (Or.inr known)⟩
        | some parts => exact Or.inl ⟨rfl, bare, parts.1, parts.2, rfl⟩
      · rcases protectAfter_cases bare backslash brace rest with ⟨_, guarded⟩ | ⟨_, passed⟩
        · exact Or.inr ⟨['\\'], Or.inr rfl, guarded⟩
        · exact Or.inr ⟨[], Or.inl rfl, passed⟩

/-- The first closing brace of a text is the first one of its protected form as well, and a quote
stands before both or before neither.

Proof: by induction on what stands before the brace. If a reference to a variable begins there,
it ends at that brace, because no name of a variable has one. -/
theorem exists_protectAfter_closing (functionNames : List Text)
    (plainVariables : ∀ name ∈ variableNames, PlainName name) {before : Text}
    (closed : '}' ∉ before) (seen rest : Text) :
    ∃ inner last, protectAfter functionNames variableNames seen (before ++ '}' :: rest) =
        inner ++ '}' :: protectAfter functionNames variableNames ('}' :: last) rest ∧
      '}' ∉ inner ∧ ('"' ∈ inner ↔ '"' ∈ before) := by
  induction before generalizing seen with
  | nil => exact ⟨[], seen, protectAfter_closing seen rest, by simp, by simp⟩
  | cons first others inductionHypothesis =>
    simp only [List.mem_cons, not_or] at closed
    rcases protectAfter_cons_cases functionNames variableNames seen first
        (others ++ '}' :: rest) with
      ⟨rfl, bare, name, after, known⟩ | ⟨guard, silent, returned⟩
    · obtain ⟨member, same⟩ := eq_append_of_knownReference? known
      have ordinary : Ordinary name := (plainVariables name member).ordinary
      obtain ⟨rfl, rfl⟩ := Text.parts_eq_of_mark same closed.2 ordinary.brace_absent
      refine ⟨'\\' :: '{' :: (others ++ ['\\']), others.reverse ++ '{' :: seen, ?_, ?_, ?_⟩
      · rw [List.cons_append, protectAfter_known bare known]
        simp
      · simp [ordinary.brace_absent]
      · simp
    · obtain ⟨inner, last, continued, apart, quotes⟩ :=
        inductionHypothesis closed.2 (first :: seen)
      refine ⟨guard ++ first :: inner, last, ?_, ?_, ?_⟩
      · rw [List.cons_append, returned, continued]
        simp
      · rcases silent with rfl | rfl <;> simp [closed.1, apart]
      · rcases silent with rfl | rfl <;> simp [quotes]

/-- Protection brings no closing brace into a text that has none. -/
theorem closing_not_mem_protectAfter (functionNames variableNames : List Text) {text : Text}
    (open_ : '}' ∉ text) (seen : Text) :
    '}' ∉ protectAfter functionNames variableNames seen text := by
  induction text generalizing seen with
  | nil =>
    rw [protectAfter.eq_def]
    exact open_
  | cons first rest inductionHypothesis =>
    simp only [List.mem_cons, not_or] at open_
    rcases protectAfter_cons_cases functionNames variableNames seen first rest with
      ⟨_, _, name, after, known⟩ | ⟨guard, silent, returned⟩
    · obtain ⟨_, rfl⟩ := eq_append_of_knownReference? known
      simp at open_
    · have later := inductionHypothesis open_.2 (first :: seen)
      rw [returned]
      rcases silent with rfl | rfl <;> simp [open_.1, later]

/-- What protection leaves in front of a closing brace names a variable exactly if the text names
it there. -/
theorem mem_variables_of_closing (plainVariables : ∀ name ∈ variableNames, PlainName name)
    {seen name rest inner out : Text} (closed : '}' ∉ name) (apart : '}' ∉ inner)
    (returned : protectAfter functionNames variableNames seen (name ++ '}' :: rest) =
      inner ++ '}' :: out) : inner ∈ variableNames ↔ name ∈ variableNames := by
  constructor
  · intro listed
    obtain ⟨remaining, same⟩ :=
      eq_append_of_protectAfter (plainVariables inner listed).ordinary returned
    obtain ⟨rfl, _⟩ := Text.parts_eq_of_mark same closed apart
    exact listed
  · intro listed
    have ordinary : Ordinary name := (plainVariables name listed).ordinary
    rw [protectAfter_ordinary_append ordinary, protectAfter_closing] at returned
    obtain ⟨rfl, _⟩ := Text.parts_eq_of_mark returned closed apart
    exact listed

end Phrasebook.Template
