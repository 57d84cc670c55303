import Mathlib.Data.List.Basic
import Phrasebook.Suggestion

/-!
# Distances between names

A row of the computation holds the distances to all final parts of the target, so behind its first
entry stands the row for the rest of the target. With this law the rows disappear: a distance obeys
equations that look at the first characters of both names, and nothing below opens a row again.

The distance tells names apart. If a name goes on with a character that another name lacks, the two
are near to each other only if they differ in this character alone.
-/

namespace Phrasebook.Suggestion

/-- A further row is as long as the row before it. -/
theorem length_nextRow (character : Char) {target : Text} {row : List Nat}
    (full : row.length = target.length + 1) :
    (nextRow character target row).length = target.length + 1 := by
  induction target generalizing row with
  | nil => simpa [nextRow] using full
  | cons first rest inductionHypothesis =>
    obtain ⟨removed, replaced, others, rfl⟩ : ∃ removed replaced others,
        row = removed :: replaced :: others := by
      match row, full with
      | removed :: replaced :: others, _ => exact ⟨removed, replaced, others, rfl⟩
    have remainder : (replaced :: others).length = rest.length + 1 := by simpa using full
    have shorter := inductionHypothesis remainder
    cases below : nextRow character rest (replaced :: others) with
    | nil => simp [below] at shorter
    | cons inserted remaining => simpa [nextRow, below] using shorter

/-- A row holds one distance more than its target has characters. -/
theorem length_distances (target source : Text) :
    (distances target source).length = target.length + 1 := by
  induction source with
  | nil => simp [distances]
  | cons character rest inductionHypothesis => exact length_nextRow character inductionHypothesis

/-- A row begins with the distance to its whole target. -/
theorem distances_eq_cons (target source : Text) :
    distances target source = distance source target :: (distances target source).tail := by
  cases row : distances target source with
  | nil => simpa [row] using length_distances target source
  | cons whole others => simp [distance, row]

/-- The row for one more character on both sides, from the rows that lack one of them. -/
theorem distances_cons_cons {character first : Char} {source target : Text}
    (before : distances (first :: target) source =
      distance source (first :: target) :: distances target source) :
    distances (first :: target) (character :: source) =
      (if character = first then distance source target
        else min (min (distance (character :: source) target) (distance source (first :: target)))
          (distance source target) + 1) :: distances target (character :: source) := by
  have further : distances target (character :: source) =
      nextRow character target (distance source target :: (distances target source).tail) := by
    rw [distances, ← distances_eq_cons]
  rw [distances, before, distances_eq_cons target source, nextRow, ← further,
    distances_eq_cons target (character :: source)]

/-- Behind the distance to its whole target stands the row for the rest of the target. -/
theorem distances_cons (first : Char) (target source : Text) :
    distances (first :: target) source =
      distance source (first :: target) :: distances target source := by
  induction source with
  | nil => simp [distance, distances, List.range_succ]
  | cons character rest inductionHypothesis =>
    rw [distance, distances_cons_cons inductionHypothesis, List.headD_cons]

/-- From the empty name, every character is inserted. -/
theorem distance_nil (target : Text) : distance [] target = target.length := by
  simp [distance, distances, List.range_succ]

/-- To the empty name, every character is removed. -/
theorem distance_to_nil (source : Text) : distance source [] = source.length := by
  have row : distances [] source = [source.length] := by
    induction source with
    | nil => rfl
    | cons character rest inductionHypothesis => simp [distances, inductionHypothesis, nextRow]
  rw [distance, row, List.headD_cons]

/-- Equal characters cost nothing; else one of them is inserted, removed or replaced, whichever
leaves least to do. -/
theorem distance_cons_cons (character first : Char) (source target : Text) :
    distance (character :: source) (first :: target) =
      if character = first then distance source target
      else min (min (distance (character :: source) target) (distance source (first :: target)))
        (distance source target) + 1 := by
  rw [distance, distances_cons_cons (distances_cons first target source), List.headD_cons]

/-- Names without distance are the same. -/
theorem distance_eq_zero_iff {source target : Text} :
    distance source target = 0 ↔ source = target := by
  induction source generalizing target with
  | nil => simp [distance_nil, eq_comm]
  | cons character rest inductionHypothesis =>
    cases target with
    | nil => simp [distance_to_nil]
    | cons first others =>
      rw [distance_cons_cons]
      by_cases same : character = first
      · simp [same, inductionHypothesis]
      · simp [same]

/-- A name and one more character are one removal away from the name. -/
theorem distance_snoc (name : Text) (last : Char) : distance (name ++ [last]) name = 1 := by
  induction name with
  | nil => simp [distance_to_nil]
  | cons first rest inductionHypothesis =>
    rw [List.cons_append, distance_cons_cons, if_pos rfl, inductionHypothesis]

/-- If a name goes on with a character that another one lacks, and one change leads from it to the
other, then the change removes or replaces this character.

The induction is on the name. If first characters differ, one of them uses up the change, and the
character would have to be kept. -/
theorem eq_of_distance_snoc_le_one {name other : Text} {last : Char} (lacking : last ∉ other)
    (near : distance (name ++ [last]) other ≤ 1) :
    other = name ∨ ∃ character, other = name ++ [character] := by
  have apart (front : Text) {rest : Text} (lacks : last ∉ rest) :
      distance (front ++ [last]) rest ≠ 0 := by
    intro same
    rw [← distance_eq_zero_iff.mp same] at lacks
    simp at lacks
  induction name generalizing other with
  | nil =>
    cases other with
    | nil => exact Or.inl rfl
    | cons first rest =>
      obtain ⟨different, absent⟩ := List.ne_and_not_mem_of_not_mem_cons lacking
      have kept := apart [] absent
      rw [List.nil_append, distance_cons_cons, if_neg different, distance_nil, distance_nil] at near
      have ended : rest.length = 0 := by
        simp only [List.nil_append, List.length_cons] at kept near
        omega
      exact Or.inr ⟨first, by simpa using ended⟩
  | cons character rest inductionHypothesis =>
    cases other with
    | nil => simp [distance_to_nil] at near
    | cons first others =>
      obtain ⟨different, absent⟩ := List.ne_and_not_mem_of_not_mem_cons lacking
      rw [List.cons_append, distance_cons_cons] at near
      by_cases same : character = first
      · subst same
        rw [if_pos rfl] at near
        rcases inductionHypothesis absent near with rfl | ⟨changed, rfl⟩
        · exact Or.inl rfl
        · exact Or.inr ⟨changed, rfl⟩
      -- whichever change is made first, the last character still has to go
      · have inserted := apart (character :: rest) absent
        have removed := apart rest lacking
        have replaced := apart rest absent
        rw [if_neg same] at near
        rw [List.cons_append] at inserted
        omega

end Phrasebook.Suggestion
