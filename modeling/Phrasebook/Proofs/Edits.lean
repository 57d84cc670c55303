import Mathlib.Order.Bounds.Basic
import Phrasebook.Proofs.Distances

/-!
# Edits of a name

An edit inserts, removes or replaces one character of a name. The distance between two names is
the least number of edits that lead from one to the other: so many edits suffice, and as each of
them changes a distance by no more than one, fewer do not.
-/

namespace Phrasebook.Suggestion

/-- One character is inserted, removed or replaced, wherever it stands. -/
inductive Edit : Text → Text → Prop where
  | inserted (before : Text) (character : Char) (after : Text) :
      Edit (before ++ after) (before ++ character :: after)
  | removed (before : Text) (character : Char) (after : Text) :
      Edit (before ++ character :: after) (before ++ after)
  | replaced (before : Text) (character other : Char) (after : Text) :
      Edit (before ++ character :: after) (before ++ other :: after)

/-- A number of edits, one after the other, leads from one text to another. -/
inductive Edits : Nat → Text → Text → Prop where
  | none (text : Text) : Edits 0 text text
  | more {steps : Nat} {first second third : Text} (edit : Edit first second)
      (others : Edits steps second third) : Edits (steps + 1) first third

/-- An edit is made behind a further character as well. -/
theorem Edit.cons {source target : Text} (edit : Edit source target) (first : Char) :
    Edit (first :: source) (first :: target) := by
  cases edit with
  | inserted before character after => exact .inserted (first :: before) character after
  | removed before character after => exact .removed (first :: before) character after
  | replaced before character other after =>
    exact .replaced (first :: before) character other after

/-- Edits are made behind a further character as well. -/
theorem Edits.cons {steps : Nat} {source target : Text} (edits : Edits steps source target)
    (first : Char) : Edits steps (first :: source) (first :: target) := by
  induction edits with
  | none text => exact .none (first :: text)
  | more edit _ inductionHypothesis => exact .more (edit.cons first) inductionHypothesis

/-- As many edits as the distance says lead from one name to the other.

The induction is on both names. Where the first characters differ, the edit of the first character
is the one that leaves least to do. -/
theorem edits_distance (source target : Text) : Edits (distance source target) source target := by
  induction source generalizing target with
  | nil =>
    rw [distance_nil]
    induction target with
    | nil => exact .none []
    | cons first rest inductionHypothesis =>
      exact .more (.inserted [] first []) (inductionHypothesis.cons first)
  | cons character source behindSource =>
    induction target with
    | nil =>
      have others := behindSource []
      rw [distance_to_nil] at others ⊢
      exact .more (.removed [] character source) others
    | cons first target behindTarget =>
      rw [distance_cons_cons]
      by_cases same : character = first
      · subst same
        rw [if_pos rfl]
        exact (behindSource target).cons character
      · have least (inserted removed replaced : Nat) :
            min (min inserted removed) replaced = inserted ∨
              min (min inserted removed) replaced = removed ∨
                min (min inserted removed) replaced = replaced := by
          omega
        rw [if_neg same]
        rcases least (distance (character :: source) target) (distance source (first :: target))
          (distance source target) with insert | remove | replace
        · rw [insert]
          exact .more (.inserted [] first (character :: source)) (behindTarget.cons first)
        · rw [remove]
          exact .more (.removed [] character source) (behindSource (first :: target))
        · rw [replace]
          exact .more (.replaced [] character first source) ((behindSource target).cons first)

/-- It is as far from one name to the other as back. -/
theorem distance_comm (source target : Text) : distance source target = distance target source := by
  induction source generalizing target with
  | nil => rw [distance_nil, distance_to_nil]
  | cons character source behindSource =>
    induction target with
    | nil => rw [distance_nil, distance_to_nil]
    | cons first target behindTarget =>
      rw [distance_cons_cons, distance_cons_cons, behindSource target, behindTarget,
        behindSource (first :: target), min_comm (distance target (character :: source))]
      simp [eq_comm]

/-- A further character at its start takes a name no more than one step away from another, and no
more than one step nearer to it.

If the other name begins with the same character, this says the same of the rest of the other name,
seen from there. -/
theorem distance_cons_near (character : Char) (source target : Text) :
    distance (character :: source) target ≤ distance source target + 1 ∧
      distance source target ≤ distance (character :: source) target + 1 := by
  cases target with
  | nil =>
    rw [distance_to_nil, distance_to_nil, List.length_cons]
    omega
  | cons first target =>
    have further := distance_cons_near first target source
    rw [distance_comm, distance_comm target] at further
    rw [distance_cons_cons]
    by_cases same : character = first
    · rw [if_pos same]
      omega
    · have behind := distance_cons_near character source target
      rw [if_neg same]
      omega
termination_by source.length + target.length

/-- What is one step nearer to every name is so behind a further character as well. -/
theorem distance_cons_le {source changed : Text}
    (near : ∀ target, distance source target ≤ distance changed target + 1) (first : Char)
    (target : Text) :
    distance (first :: source) target ≤ distance (first :: changed) target + 1 := by
  induction target with
  | nil =>
    have shorter := near []
    rw [distance_to_nil, distance_to_nil] at shorter ⊢
    simpa using shorter
  | cons character target inductionHypothesis =>
    have whole := near (character :: target)
    have rest := near target
    rw [distance_cons_cons, distance_cons_cons]
    by_cases same : first = character
    · rw [if_pos same, if_pos same]
      exact rest
    · rw [if_neg same, if_neg same]
      omega

/-- What is one step nearer to every name is so wherever it stands. -/
theorem distance_append_le {source changed : Text}
    (near : ∀ target, distance source target ≤ distance changed target + 1) (before target : Text) :
    distance (before ++ source) target ≤ distance (before ++ changed) target + 1 := by
  induction before generalizing target with
  | nil => exact near target
  | cons first before inductionHypothesis => exact distance_cons_le inductionHypothesis first target

/-- An edit leads no more than one step towards any name. -/
theorem Edit.distance_le {source changed : Text} (edit : Edit source changed) (target : Text) :
    distance source target ≤ distance changed target + 1 := by
  cases edit with
  | inserted before character after =>
    have near (target : Text) := (distance_cons_near character after target).2
    exact distance_append_le near before target
  | removed before character after =>
    have near (target : Text) := (distance_cons_near character after target).1
    exact distance_append_le near before target
  | replaced before character other after =>
    refine distance_append_le (fun target => ?_) before target
    cases target with
    | nil => simp [distance_to_nil]
    | cons first target =>
      have changed := distance_cons_near other after target
      have skipped := distance_cons_near first target after
      rw [distance_comm, distance_comm target] at skipped
      rw [distance_cons_cons, distance_cons_cons]
      split <;> split <;> omega

/-- So many edits as the distance says are needed: fewer do not lead to the other name. -/
theorem Edits.distance_le {steps : Nat} {source target : Text}
    (edits : Edits steps source target) : distance source target ≤ steps := by
  induction edits with
  | none text => exact Nat.le_of_eq (distance_eq_zero_iff.mpr rfl)
  | more edit _ inductionHypothesis =>
    exact Nat.le_trans (edit.distance_le _) (Nat.add_le_add_right inductionHypothesis 1)

/-- The distance is the least number of edits from one name to the other. -/
theorem distance_isLeast (source target : Text) :
    IsLeast { steps | Edits steps source target } (distance source target) :=
  ⟨edits_distance source target, fun _ edits => edits.distance_le⟩

/-- So many edits or fewer lead from one name to another if the distance is no greater. -/
theorem exists_edits_iff {source target : Text} {bound : Nat} :
    (∃ steps ≤ bound, Edits steps source target) ↔ distance source target ≤ bound := by
  constructor
  · rintro ⟨steps, few, edits⟩
    exact Nat.le_trans edits.distance_le few
  · intro near
    exact ⟨distance source target, near, edits_distance source target⟩

end Phrasebook.Suggestion
