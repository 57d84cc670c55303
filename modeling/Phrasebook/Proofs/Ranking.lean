import Mathlib
import Phrasebook.Proofs.ByteOrder
import Phrasebook.Proofs.Edits
import Phrasebook.Proofs.Suggestions

/-!
# What is suggested, and in which order

The names that count as near to a wanted one are those that few edits lead to. The suggestions are
the first of them, when they are put in order of their distance and, at one distance, of their
bytes. The order leaves no choice, so it does not matter in which order the names were listed.
-/

namespace Phrasebook.Suggestion

/-- A name is near to a wanted one if it is another name, and one edit leads to it, or two if the
wanted name has more than three characters. -/
def Near (wanted name : Text) : Prop :=
  name ≠ wanted ∧ ∃ steps ≤ (if wanted.length ≤ 3 then 1 else 2), Edits steps wanted name

/-- A name is nearer to the wanted one than another, or at the same distance and smaller in the
order of bytes. -/
def Before (wanted first second : Text) : Prop :=
  distance wanted first < distance wanted second ∨
    distance wanted first = distance wanted second ∧ first.bytes < second.bytes

/-- A name is near if its distance is tolerated. -/
theorem near_iff {wanted name : Text} :
    Near wanted name ↔ name ≠ wanted ∧ distance wanted name ≤ tolerance wanted := by
  rw [Near, exists_edits_iff, tolerance]

instance (wanted name : Text) : Decidable (Near wanted name) :=
  decidable_of_iff _ near_iff.symm

/-- The candidates are the near names, each as often as it is listed. -/
theorem map_candidates (wanted : Text) (names : List Text) :
    (candidates wanted names).map Prod.snd = names.filter fun name => Near wanted name := by
  rw [candidates, List.filter_map, List.map_map, List.filter_filter]
  have named : Prod.snd ∘ (fun name => (distance wanted name, name)) = id := rfl
  rw [named, List.map_id]
  refine List.filter_congr fun name _ => Bool.eq_iff_iff.mpr ?_
  simp [near_iff, and_comm]

/-- Candidates are compared by distance and then by bytes. -/
theorem precedes_iff_not_before {wanted : Text} {names : List Text} {first second : Nat × Text}
    (listed : first ∈ candidates wanted names) (listed' : second ∈ candidates wanted names) :
    precedes first second = true ↔ ¬Before wanted second.2 first.2 := by
  obtain ⟨_, _, steps, _⟩ := mem_candidates_iff.mp listed
  obtain ⟨_, _, steps', _⟩ := mem_candidates_iff.mp listed'
  rw [precedes_iff, Before, steps, steps', Text.bytes_lt_bytes_iff]
  by_cases behind : second.2 < first.2
  · simp only [behind, not_true, and_false, or_false, and_true]
    omega
  · simp only [behind, not_false_eq_true, and_true, and_false, or_false]
    omega

/-- The candidates in order are one list, however the names are listed. -/
theorem sorted_candidates_congr {wanted : Text} {names others : List Text}
    (same : names.Perm others) :
    (candidates wanted names).mergeSort precedes =
      (candidates wanted others).mergeSort precedes := by
  have sorted (listed : List Text) :=
    List.pairwise_mergeSort precedes_trans precedes_total (candidates wanted listed)
  have rearranged : (candidates wanted names).Perm (candidates wanted others) :=
    ((same.filter _).map _).filter _
  refine List.Perm.eq_of_pairwise (fun _ _ _ _ => precedes_antisymm)
    (sorted names) (sorted others) ?_
  exact (List.mergeSort_perm _ _).trans (rearranged.trans (List.mergeSort_perm _ _).symm)

/-- The suggestions are the best of the near names, however the names are listed: with what is
omitted they are all near names, each as often as it is listed, none in front of one that comes
before it, and no more is omitted than has to be.

Proof: the sorted candidates are split behind the third. Sorting keeps the candidates, and these
are the near names; and as names that precede each other are the same, there is one sorted list of
them. -/
theorem suggestions_best (wanted : Text) (names : List Text) :
    (∀ name, IsLeast { steps | Edits steps wanted name } (distance wanted name)) ∧
      (∃ omitted,
        (suggestions wanted names ++ omitted).Perm (names.filter fun name => Near wanted name) ∧
        (suggestions wanted names ++ omitted).Pairwise
          (fun earlier later => ¬Before wanted later earlier)) ∧
      (suggestions wanted names).length =
        min 3 (names.filter fun name => Near wanted name).length ∧
      wanted ∉ suggestions wanted names ∧
      ∀ others, names.Perm others → suggestions wanted others = suggestions wanted names := by
  have split : suggestions wanted names ++
      (((candidates wanted names).mergeSort precedes).drop 3).map Prod.snd =
      ((candidates wanted names).mergeSort precedes).map Prod.snd := by
    rw [suggestions, ← List.map_append, List.take_append_drop]
  have kept : (((candidates wanted names).mergeSort precedes).map Prod.snd).Perm
      (names.filter fun name => Near wanted name) :=
    map_candidates wanted names ▸ (List.mergeSort_perm _ _).map Prod.snd
  have ordered : (((candidates wanted names).mergeSort precedes).map Prod.snd).Pairwise
      (fun earlier later => ¬Before wanted later earlier) := by
    refine List.pairwise_map.mpr (List.Pairwise.imp_of_mem (fun listed listed' before => ?_)
      (List.pairwise_mergeSort precedes_trans precedes_total (candidates wanted names)))
    exact (precedes_iff_not_before (List.mem_mergeSort.mp listed)
      (List.mem_mergeSort.mp listed')).mp before
  refine ⟨distance_isLeast wanted, ⟨_, split ▸ kept, split ▸ ordered⟩, ?_, ?_, ?_⟩
  · rw [suggestions, List.length_map, List.length_take, ← kept.length_eq, List.length_map]
  · intro suggested
    have member := kept.mem_iff.mp (split ▸ List.mem_append_left _ suggested)
    have near : Near wanted wanted := by simpa using (List.mem_filter.mp member).2
    exact near.1 rfl
  · intro others same
    rw [suggestions, suggestions, sorted_candidates_congr same]

/-- Of five names at distance one, one of them listed twice, the three smallest are suggested,
also if the names are listed the other way round. -/
theorem suggestions_best_ties :
    let names := ["vür".toList, "fur".toList, "für".toList, "füs".toList, "f".toList,
      "fürs".toList, "fur".toList]
    names.Perm names.reverse ∧
      suggestions "für".toList names.reverse = ["fur".toList, "fur".toList, "fürs".toList] := by
  intro names
  have same : names.Perm names.reverse := (List.reverse_perm names).symm
  have listed : suggestions "für".toList names = ["fur".toList, "fur".toList, "fürs".toList] := by
    cbv
  obtain ⟨_, _, _, _, invariant⟩ := suggestions_best "für".toList names
  exact ⟨same, (invariant names.reverse same).trans listed⟩

end Phrasebook.Suggestion
