import Mathlib.Data.List.Basic
import Phrasebook.Dictionary
import Phrasebook.Text

/-!
# Parts of a text

Two ways of cutting one text in two are compared by the widths of their first parts: the
narrower first part begins the wider one. So what is known about the text before a place
stays true when the text after it is exchanged.

The searches for a mark, for a name and for a key are restated as equations on the parts
they return. Later proofs use these equations and do not open the searches again.
-/

namespace Phrasebook

/-- An item of a list made of two parts stands in the first part or in the second. -/
theorem append_cons_cases {α : Type} {first second front back : List α} {item : α}
    (same : first ++ second = front ++ item :: back) :
    (∃ between, first = front ++ item :: between ∧ back = between ++ second) ∨
      ∃ between, front = first ++ between ∧ second = between ++ item :: back := by
  rcases List.append_eq_append_iff.mp same with ⟨between, rfl, rfl⟩ | ⟨between, rfl, headed⟩
  · exact Or.inr ⟨between, rfl, rfl⟩
  · cases between with
    | nil => exact Or.inr ⟨[], by simp, by simpa using headed.symm⟩
    | cons head others =>
      obtain ⟨rfl, rfl⟩ := List.cons.inj headed
      exact Or.inl ⟨others, rfl, rfl⟩

/-- A list is written no longer in one way than in the other if every item is. -/
theorem length_flatMap_le {α β : Type} {items : List α} {shorter longer : α → List β}
    (bound : ∀ item ∈ items, (shorter item).length ≤ (longer item).length) :
    (items.flatMap shorter).length ≤ (items.flatMap longer).length := by
  induction items with
  | nil => exact Nat.le_refl _
  | cons first rest inductionHypothesis =>
    obtain ⟨boundFirst, boundRest⟩ := List.forall_mem_cons.mp bound
    simp only [List.flatMap_cons, List.length_append]
    exact Nat.add_le_add boundFirst (inductionHypothesis boundRest)

/-- If every item is written no longer in one way than in the other, and a list is written the
same in both, then so is each of its items. -/
theorem eq_of_flatMap_eq {α β : Type} {items : List α} {shorter longer : α → List β}
    (bound : ∀ item ∈ items, (shorter item).length ≤ (longer item).length)
    (same : items.flatMap shorter = items.flatMap longer) :
    ∀ item ∈ items, shorter item = longer item := by
  induction items with
  | nil => simp
  | cons first rest inductionHypothesis =>
    obtain ⟨boundFirst, boundRest⟩ := List.forall_mem_cons.mp bound
    rw [List.flatMap_cons, List.flatMap_cons] at same
    have lengths := congrArg List.length same
    have remaining := length_flatMap_le boundRest
    rw [List.length_append, List.length_append] at lengths
    obtain ⟨here, behind⟩ := List.append_inj same (by omega)
    exact List.forall_mem_cons.mpr ⟨here, inductionHypothesis boundRest behind⟩

end Phrasebook

namespace Phrasebook.Text

/-- Only the empty text is zero bytes wide. -/
theorem width_eq_zero_iff {text : Text} : width text = 0 ↔ text = [] := by
  cases text with
  | nil => simp [width]
  | cons first rest =>
    have positive := first.utf8Size_pos
    simp only [width, reduceCtorEq, iff_false]
    omega

/-- What a reader has taken of a text ends where the width of the unread rest says. -/
theorem width_add_sub_width (before taken left : Text) :
    width before + (width (taken ++ left) - width left) = width (before ++ taken) := by
  simp only [width_append]
  omega

/-- The narrower of two first parts begins the wider one, and the second parts differ by
the same piece. -/
theorem between_of_width_le {before after before' after' : Text}
    (same : before ++ after = before' ++ after') (narrower : width before ≤ width before') :
    ∃ between, before' = before ++ between ∧ after = between ++ after' := by
  rcases List.append_eq_append_iff.mp same with ⟨between, rfl, rfl⟩ | ⟨between, rfl, rfl⟩
  · exact ⟨between, rfl, rfl⟩
  · have nothing : between = [] := by
      rw [width_append] at narrower
      exact width_eq_zero_iff.mp (by omega)
    subst nothing
    exact ⟨[], by simp, by simp⟩

/-- Two ways of cutting a text at one place are the same. -/
theorem parts_eq_of_width {before after before' after' : Text}
    (same : before ++ after = before' ++ after') (measured : width before = width before') :
    before = before' ∧ after = after' := by
  have cut := cut?_append before after
  rw [same, measured, cut?_append] at cut
  simpa [eq_comm] using cut

/-- The character that begins at a byte offset. -/
def charAt? (text : Text) (offset : Nat) : Option Char :=
  (text.cut? offset).bind fun parts => parts.2.head?

/-- A character stands at the width of the text before it, and nowhere else. -/
theorem charAt?_eq_some_iff {text : Text} {offset : Nat} {character : Char} :
    charAt? text offset = some character ↔
      ∃ before after, text = before ++ character :: after ∧ offset = width before := by
  constructor
  · intro found
    obtain ⟨⟨before, rest⟩, cut, first⟩ := Option.bind_eq_some_iff.mp found
    obtain ⟨whole, measured⟩ := eq_append_of_cut? cut
    obtain ⟨after, rfl⟩ := List.head?_eq_some_iff.mp first
    exact ⟨before, after, whole, measured⟩
  · rintro ⟨before, after, rfl, rfl⟩
    simp [charAt?, cut?_append]

/-- A place where a character begins is a cut inside the text. -/
theorem lt_width_of_charAt? {text : Text} {offset : Nat} {character : Char}
    (here : charAt? text offset = some character) :
    offset < width text ∧ (text.cut? offset).isSome := by
  obtain ⟨before, after, rfl, rfl⟩ := charAt?_eq_some_iff.mp here
  have positive := character.utf8Size_pos
  constructor
  · simp only [width_append, width]
    omega
  · simp [cut?_append]

/-- A text breaks at a mark exactly where the mark occurs for the first time. -/
theorem breakAt?_eq_some_iff {mark : Char} {text before after : Text} :
    breakAt? mark text = some (before, after) ↔
      text = before ++ mark :: after ∧ mark ∉ before := by
  constructor
  · exact eq_append_of_breakAt?
  · rintro ⟨rfl, absent⟩
    induction before with
    | nil => simp [breakAt?]
    | cons first rest inductionHypothesis =>
      simp only [List.mem_cons, not_or] at absent
      simp [breakAt?, Ne.symm absent.1, inductionHypothesis absent.2]

/-- A text does not break at a mark exactly where the mark does not occur. -/
theorem breakAt?_eq_none_iff {mark : Char} {text : Text} :
    breakAt? mark text = none ↔ mark ∉ text := by
  constructor
  · intro unbroken member
    obtain ⟨before, after, whole, absent⟩ := List.eq_append_cons_of_mem member
    rw [breakAt?_eq_some_iff.mpr ⟨whole, absent⟩] at unbroken
    exact absurd unbroken (by simp)
  · intro absent
    refine Option.eq_none_iff_forall_ne_some.mpr fun ⟨before, after⟩ broken => absent ?_
    obtain ⟨whole, _⟩ := breakAt?_eq_some_iff.mp broken
    simp [whole]

/-- What stands before the first occurrence of a mark is determined by the text. -/
theorem parts_eq_of_mark {mark : Char} {before after before' after' : Text}
    (same : before ++ mark :: after = before' ++ mark :: after')
    (absent : mark ∉ before) (absent' : mark ∉ before') : before = before' ∧ after = after' := by
  have broken : breakAt? mark (before ++ mark :: after) = some (before, after) :=
    breakAt?_eq_some_iff.mpr ⟨rfl, absent⟩
  rw [same, breakAt?_eq_some_iff.mpr ⟨rfl, absent'⟩] at broken
  simpa [eq_comm] using broken

/-- A name ends what was seen exactly if its mirror image leads it. -/
theorem followsName_eq_true_iff {names : List Text} {seen : Text} :
    followsName names seen = true ↔ ∃ name ∈ names, name ≠ [] ∧ name.reverse <+: seen := by
  simp [followsName, List.any_eq_true]

end Phrasebook.Text

namespace Phrasebook.Dictionary

universe u
variable {α : Type u}

/-- A key is listed exactly if it has a value. -/
theorem mem_keys_iff {dictionary : Dictionary α} {key : Text} :
    key ∈ dictionary.keys ↔ ∃ value, dictionary.find? key = some value := by
  rw [← Option.isSome_iff_exists, find?, List.lookup_isSome_iff]
  simp [keys]

/-- Nothing is found under a name that is no key. -/
theorem find?_eq_none_iff {dictionary : Dictionary α} {key : Text} :
    dictionary.find? key = none ↔ key ∉ dictionary.keys := by
  rw [mem_keys_iff, ← Option.isSome_iff_exists, Option.not_isSome_iff_eq_none]

end Phrasebook.Dictionary
