import Phrasebook.Proofs.Levels

/-!
# What stripping leaves

Stripping takes backslashes away and nothing else, and only from the runs that end directly before
a delimiter. Of such a run one backslash is left if there were more than one, so the first pass can
leave delimiters with a level of one. The second pass takes those away, and from then on nothing
changes. No backslash comes closer to a delimiter than it was: what stands between the two is kept.
-/

namespace Phrasebook.Template

/-- The second text is the first one without some of its backslashes. Each backslash that is left
out belongs to a run that ends directly before a delimiter. -/
inductive Unescapes : Text → Text → Prop where
  | nil : Unescapes [] []
  | keep {text fewer : Text} (first : Char) (rest : Unescapes text fewer) :
      Unescapes (first :: text) (first :: fewer)
  | drop {after fewer : Text} {delimiter : Char} (count : Nat)
      (closes : isDelimiter delimiter = true)
      (rest : Unescapes (List.replicate count '\\' ++ delimiter :: after) fewer) :
      Unescapes ('\\' :: (List.replicate count '\\' ++ delimiter :: after)) fewer

variable {text fewer after : Text} {change : Nat → Nat} {bound : Nat}

/-- Characters in front of both texts are kept. -/
theorem Unescapes.append (front : Text) (rest : Unescapes text fewer) :
    Unescapes (front ++ text) (front ++ fewer) := by
  induction front with
  | nil => exact rest
  | cons first others inductionHypothesis => exact inductionHypothesis.keep first

/-- Every text comes about from itself. -/
theorem Unescapes.refl (text : Text) : Unescapes text text := by
  have whole := Unescapes.append text Unescapes.nil
  rwa [List.append_nil] at whole

/-- A run before a delimiter may become shorter. -/
theorem Unescapes.shorten {delimiter : Char} (closes : isDelimiter delimiter = true)
    (rest : Unescapes after fewer) {kept count : Nat} (shorter : kept ≤ count) :
    Unescapes (List.replicate count '\\' ++ delimiter :: after)
      (List.replicate kept '\\' ++ delimiter :: fewer) := by
  induction shorter with
  | refl => exact (rest.keep delimiter).append _
  | @step count _ inductionHypothesis => exact .drop count closes inductionHypothesis

/-- Where levels only go down, backslashes before delimiters are taken away and nothing else. -/
theorem unescapes_relevel (lowers : ∀ level, change level ≤ level) (text : Text) :
    Unescapes text (relevel change text) := by
  induction text using runInduction with
  | run count =>
    rw [relevel_run]
    exact .refl _
  | next count first rest other inductionHypothesis =>
    rw [relevel_run_cons other]
    by_cases delimiter : isDelimiter first = true
    · rw [if_pos delimiter]
      exact inductionHypothesis.shorten delimiter (lowers count)
    · rw [if_neg delimiter]
      exact (inductionHypothesis.keep first).append _

/-- A change to levels within a bound leaves no delimiter beyond it.

Cutting all levels off at the bound is then no further change. -/
theorem levelAtMost_relevel (bounded : ∀ level, change level ≤ bound) (text : Text) :
    LevelAtMost bound (relevel change text) := by
  have cut (level : Nat) : min level bound = level ↔ level ≤ bound := by omega
  have within : (min · bound) ∘ change = change := by
    funext level
    exact Nat.min_eq_left (bounded level)
  rw [← relevel_eq_self_iff cut, relevel_relevel, within]

/-- Stripping leaves a level of one at most. -/
theorem strippedLevel_le_one (level : Nat) : strippedLevel level ≤ 1 := by
  unfold strippedLevel
  split <;> omega

/-- Stripping twice takes all levels away. -/
theorem strip_strip (text : Text) : strip (strip text) = relevel (fun _ => 0) text := by
  have twice : strippedLevel ∘ strippedLevel = fun _ => 0 := by
    funext level
    have low := strippedLevel_le_one level
    rw [Function.comp_apply, strippedLevel, if_neg (Nat.not_lt.mpr low)]
  rw [strip_eq_relevel, strip_eq_relevel, relevel_relevel, twice]

/-- Stripping deletes only backslashes, namely some of those in runs before delimiters, and settles
after two passes.

It leaves no delimiter behind more than one backslash and changes nothing exactly if no delimiter
stands behind one. A second pass leaves no delimiter behind a backslash, so a third one changes
nothing; and the second one is needed exactly if some delimiter stood behind more than one.

Proof: both passes are changes of levels, the second to level zero throughout, and the two agree
where no level is above one. -/
theorem strip_settles (text : Text) :
    Unescapes text (strip text) ∧ LevelAtMost 1 (strip text) ∧
      LevelAtMost 0 (strip (strip text)) ∧
      strip (strip (strip text)) = strip (strip text) ∧
      (strip text = text ↔ LevelAtMost 0 text) ∧
      (strip (strip text) = strip text ↔ LevelAtMost 1 text) := by
  have shortened : Unescapes text (strip text) := by
    rw [strip_eq_relevel]
    exact unescapes_relevel strippedLevel_le text
  have low : LevelAtMost 1 (strip text) := by
    rw [strip_eq_relevel]
    exact levelAtMost_relevel strippedLevel_le_one text
  have flat : LevelAtMost 0 (strip (strip text)) := by
    rw [strip_strip]
    exact levelAtMost_relevel (fun _ => Nat.le_refl 0) text
  have agree (level : Nat) : 0 = strippedLevel level ↔ level ≤ 1 := by
    unfold strippedLevel
    split <;> omega
  refine ⟨shortened, low, flat, ?_, strip_eq_self_iff text, ?_⟩
  · exact (strip_eq_self_iff _).mpr flat
  · rw [strip_strip, strip_eq_relevel]
    exact relevel_eq_relevel_iff agree text

/-- Runs before delimiters, before another character and at the end of a text. -/
example : strip ['\\', '\\', '\\', ':', '\\', 'n', '\\', '"', '\\', '\\'] =
    ['\\', ':', '\\', 'n', '"', '\\', '\\'] := by decide

end Phrasebook.Template
