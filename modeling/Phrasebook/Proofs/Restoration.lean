import Phrasebook.Proofs.Levels
import Phrasebook.Proofs.Protection

/-!
# What stripping restores

Protection writes a backslash before a delimiter only where none precedes it, so it raises levels
from zero to one and leaves the others alone. Stripping takes a level of one off again. A text
that is protected first is therefore stripped to the same text as one that is not, and if no
delimiter in it was escaped, it comes back as it was.

What stands before a character matters to protection and to stripping in different ways: the one
asks whether a backslash precedes it, the other how many. Both are told by the run of backslashes
that is pending there.
-/

namespace Phrasebook.Template

variable {functionNames variableNames : List Text} {seen rest : Text} {first : Char}

/-- The number of backslashes at the end of a text that is listed from its end to its start. -/
def pending (seen : Text) : Nat :=
  (seen.takeWhile (· == '\\')).length

/-- A backslash makes the pending run longer. -/
theorem pending_backslash (seen : Text) : pending ('\\' :: seen) = pending seen + 1 := by
  simp [pending]

/-- Any other character ends the pending run. -/
theorem pending_cons (other : first ≠ '\\') (seen : Text) : pending (first :: seen) = 0 := by
  simp [pending, other]

/-- Nothing is pending behind a text that does not end in a backslash. -/
theorem pending_eq_zero (bare : seen.head? ≠ some '\\') : pending seen = 0 := by
  cases seen with
  | nil => rfl
  | cons last others => exact pending_cons (by simpa using bare) others

/-- A delimiter is no backslash. -/
theorem ne_backslash (delimiter : isDelimiter first = true) : first ≠ '\\' := by
  rintro rfl
  exact absurd delimiter (by decide)

/-- A bare delimiter stays. -/
theorem strip_delimiter (delimiter : isDelimiter first = true) (rest : Text) :
    strip (first :: rest) = first :: strip rest := by
  rw [strip, stripAfter, if_neg (ne_backslash delimiter), if_pos delimiter]
  rfl

/-- A single backslash in front of a delimiter goes. -/
theorem strip_escaped (delimiter : isDelimiter first = true) (rest : Text) :
    strip ('\\' :: first :: rest) = first :: strip rest := by
  rw [strip, stripAfter, if_pos rfl, stripAfter, if_neg (ne_backslash delimiter),
    if_pos delimiter]
  rfl

/-- Texts that begin with the same character are stripped to the same text if what follows it is,
behind the run that is then pending. -/
theorem stripAfter_cons_congr {rest' : Text}
    (same : stripAfter (pending (first :: seen)) rest =
      stripAfter (pending (first :: seen)) rest') :
    stripAfter (pending seen) (first :: rest) = stripAfter (pending seen) (first :: rest') := by
  by_cases backslash : first = '\\'
  · subst backslash
    rw [pending_backslash] at same
    rw [stripAfter, if_pos rfl, same, stripAfter, if_pos rfl]
  · rw [pending_cons backslash] at same
    rw [stripAfter, if_neg backslash, same, stripAfter, if_neg backslash]

/-- A delimiter that protection escapes is stripped to the same text as the bare one. -/
theorem stripAfter_guarded {rest' : Text} (delimiter : isDelimiter first = true)
    (bare : seen.head? ≠ some '\\')
    (same : stripAfter (pending (first :: seen)) rest =
      stripAfter (pending (first :: seen)) rest') :
    stripAfter (pending seen) ('\\' :: first :: rest) =
      stripAfter (pending seen) (first :: rest') := by
  rw [pending_cons (ne_backslash delimiter)] at same
  rw [pending_eq_zero bare]
  calc strip ('\\' :: first :: rest)
    _ = first :: strip rest := strip_escaped delimiter rest
    _ = first :: strip rest' := congrArg (first :: ·) same
    _ = strip (first :: rest') := (strip_delimiter delimiter rest').symm

/-- A reference with both braces escaped is stripped to the same text as the bare one, unless the
name ends in a backslash, which would escape the closing brace. -/
theorem strip_reference {name rest' : Text} (closed : name.getLast? ≠ some '\\')
    (same : strip rest = strip rest') :
    strip ('\\' :: '{' :: (name ++ '\\' :: '}' :: rest)) =
      strip ('{' :: (name ++ '}' :: rest')) := by
  rw [strip_escaped (by decide), strip_delimiter (by decide), strip_append closed,
    strip_append closed, strip_escaped (by decide), strip_delimiter (by decide), same]

/-- Behind any text, protected text is stripped to what it is stripped to without protection.

The induction follows protection. Where it writes a backslash, nothing was pending, so stripping
takes just that backslash off; everywhere else both texts go on with the same character. -/
theorem stripAfter_protectAfter (closed : ∀ name ∈ variableNames, name.getLast? ≠ some '\\')
    (seen text : Text) :
    stripAfter (pending seen) (protectAfter functionNames variableNames seen text) =
      stripAfter (pending seen) text := by
  fun_induction protectAfter functionNames variableNames seen text with
  | case1 => rfl
  | case2 seen first rest escaped colon inductionHypothesis =>
    simp only [Bool.and_eq_true, beq_iff_eq, Bool.not_eq_true', escaped] at colon
    obtain ⟨⟨rfl, bare⟩, _⟩ := colon
    exact stripAfter_guarded (by decide) (by simpa using bare) inductionHypothesis
  | case3 seen first rest escaped notColon quote inductionHypothesis =>
    simp only [Bool.and_eq_true, beq_iff_eq, Bool.not_eq_true', escaped] at quote
    obtain ⟨rfl, bare⟩ := quote
    exact stripAfter_guarded (by decide) (by simpa using bare) inductionHypothesis
  | case4 seen first rest escaped notColon notQuote brace name after known _ inductionHypothesis =>
    simp only [Bool.and_eq_true, beq_iff_eq, Bool.not_eq_true', escaped] at brace
    obtain ⟨rfl, bare⟩ := brace
    obtain ⟨member, rfl⟩ := eq_append_of_knownReference? known
    rw [List.cons_append, pending_cons (by decide)] at inductionHypothesis
    rw [pending_eq_zero (by simpa using bare)]
    exact strip_reference (closed name member) inductionHypothesis
  | case5 seen first rest escaped notColon notQuote brace unknown inductionHypothesis =>
    simp only [Bool.and_eq_true, beq_iff_eq] at brace
    obtain ⟨rfl, _⟩ := brace
    exact stripAfter_cons_congr inductionHypothesis
  | case6 seen first rest escaped notColon notQuote notBrace inductionHypothesis =>
    exact stripAfter_cons_congr inductionHypothesis

/-- Stripping a protected text gives what stripping the text itself gives, if no name of a variable
ends in a backslash. -/
theorem strip_protect (closed : ∀ name ∈ variableNames, name.getLast? ≠ some '\\') (text : Text) :
    strip (protect functionNames variableNames text) = strip text :=
  stripAfter_protectAfter closed [] text

/-- Stripping undoes protection: a protected text is stripped to what the text itself is stripped
to. So it comes back as it was exactly if no delimiter in it stands behind a backslash.

The names of functions are any texts, and so are those of variables, which may hold delimiters and
backslashes; only a backslash at the end of one is excluded. -/
theorem protection_undone (functionNames variableNames : List Text) (text : Text)
    (closed : ∀ name ∈ variableNames, name.getLast? ≠ some '\\') :
    strip (protect functionNames variableNames text) = strip text ∧
      (strip (protect functionNames variableNames text) = text ↔ LevelAtMost 0 text) := by
  have same : strip (protect functionNames variableNames text) = strip text :=
    strip_protect closed text
  constructor
  · exact same
  · rw [same]
    exact strip_eq_self_iff text

/-- Protection is undone with a backslash and a colon in names of functions, and delimiters and a
backslash in the name of a variable, around which runs of backslashes stand. -/
theorem protection_undone_marks :
    let functionNames : List Text := [['f', '\\'], ['g', ':']]
    let variableNames : List Text := [['x'], ['"', '\\', '}', 'y']]
    let text : Text :=
      ['g', ':', ':', '{', '"', '\\', '}', 'y', '}', '\\', '\\', '{', 'x', '}', '"']
    (∀ name ∈ variableNames, name.getLast? ≠ some '\\') ∧
      protect functionNames variableNames text ≠ text ∧
      strip (protect functionNames variableNames text) =
        ['g', ':', ':', '{', '"', '}', 'y', '}', '\\', '{', 'x', '}', '"'] ∧
      ¬LevelAtMost 0 text := by
  intro functionNames variableNames text
  have closed : ∀ name ∈ variableNames, name.getLast? ≠ some '\\' := by decide
  obtain ⟨stripped, restored⟩ := protection_undone functionNames variableNames text closed
  have known : strip text =
      ['g', ':', ':', '{', '"', '}', 'y', '}', '\\', '{', 'x', '}', '"'] := by decide
  refine ⟨closed, by decide +kernel, stripped.trans known, ?_⟩
  intro low
  exact absurd (restored.mpr low) (by rw [stripped]; decide)

/-- A name that ends in a backslash would not do: the escape of the closing brace joins it. -/
example : strip (protect [] [['x', '\\']] ['{', 'x', '\\', '}']) ≠ strip ['{', 'x', '\\', '}'] := by
  decide +kernel

end Phrasebook.Template
