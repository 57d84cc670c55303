import Phrasebook.Text

/-!
# Readings with unread rests

A reader takes the remaining text and returns what it has read together with what it leaves
unread, or the cause of its failure. Lists are read item by item: a further item is put in
front of what the reader returns for the rest.
-/

namespace Phrasebook.Text

/-- Puts an item in front of the items that a reader returns. -/
def following {ε α : Type} (item : α) : Except ε (List α × Text) → Except ε (List α × Text)
  | .error cause => .error cause
  | .ok (items, after) => .ok (item :: items, after)

/-- A reader that puts an item in front leaves the same text unread. -/
theorem following_eq_ok_iff {ε α : Type} {item : α} {items : List α} {after : Text}
    {read : Except ε (List α × Text)} :
    following item read = .ok (items, after) ↔
      ∃ others, read = .ok (others, after) ∧ items = item :: others := by
  rcases read with cause | ⟨others, remaining⟩
  · simp [following]
  · simp only [following, Except.ok.injEq, Prod.mk.injEq]
    constructor
    · rintro ⟨rfl, rfl⟩
      exact ⟨others, ⟨rfl, rfl⟩, rfl⟩
    · rintro ⟨found, ⟨rfl, rfl⟩, rfl⟩
      exact ⟨rfl, rfl⟩

end Phrasebook.Text
