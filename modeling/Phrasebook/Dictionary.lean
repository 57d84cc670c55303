import Phrasebook.Text

/-!
# Dictionaries

A dictionary maps finitely many texts to values. Its entries are kept in strictly
increasing order of their keys, compared character by character, so every key occurs
once, the keys are listed in one order whatever the order of the writes, and two
dictionaries with the same content are equal. A write to a present key replaces its value.
-/

namespace Phrasebook

universe u

/-- The keys of neighbouring entries increase strictly. -/
def Ascending {α : Type u} (entries : List (Text × α)) : Prop :=
  entries.Pairwise fun earlier later => earlier.1 < later.1

/-- A finite map from texts, ordered by key. -/
structure Dictionary (α : Type u) where
  entries : List (Text × α)
  ascending : Ascending entries
deriving DecidableEq

namespace Dictionary

variable {α : Type u}

/-- Puts an entry in its place; an entry with the same key gives way. -/
def insertEntry (key : Text) (value : α) : List (Text × α) → List (Text × α)
  | [] => [(key, value)]
  | entry :: rest =>
    if key < entry.1 then (key, value) :: entry :: rest
    else if key = entry.1 then (key, value) :: rest
    else entry :: insertEntry key value rest

/-- Inserting an entry adds no key but the inserted one. -/
theorem mem_insertEntry {key : Text} {value : α} {entry : Text × α} {entries : List (Text × α)}
    (member : entry ∈ insertEntry key value entries) : entry = (key, value) ∨ entry ∈ entries := by
  induction entries with
  | nil => simpa [insertEntry] using member
  | cons first rest inductionHypothesis =>
    rw [insertEntry] at member
    split at member
    · simpa using member
    · split at member
      · rcases List.mem_cons.1 member with same | inside
        · exact Or.inl same
        · exact Or.inr (List.mem_cons_of_mem _ inside)
      · rcases List.mem_cons.1 member with same | inside
        · exact Or.inr (same ▸ List.mem_cons_self)
        · exact (inductionHypothesis inside).imp_right (List.mem_cons_of_mem _)

/-- Inserting an entry keeps the order of the keys. -/
theorem insertEntry_ascending (key : Text) (value : α) {entries : List (Text × α)}
    (ascending : Ascending entries) : Ascending (insertEntry key value entries) := by
  induction entries with
  | nil => simp [insertEntry, Ascending]
  | cons first rest inductionHypothesis =>
    obtain ⟨below, tail⟩ := List.pairwise_cons.1 ascending
    rw [insertEntry]
    split
    · rename_i smaller
      refine List.pairwise_cons.2 ⟨fun entry member => ?_, ascending⟩
      rcases List.mem_cons.1 member with same | inside
      · exact same ▸ smaller
      · exact List.lt_trans smaller (below entry inside)
    · split
      · rename_i same
        exact List.pairwise_cons.2 ⟨fun entry member => same ▸ below entry member, tail⟩
      · rename_i notSmaller different
        refine List.pairwise_cons.2 ⟨fun entry member => ?_, inductionHypothesis tail⟩
        rcases mem_insertEntry member with same | inside
        · rcases List.le_iff_lt_or_eq.1 (List.not_lt.1 notSmaller) with larger | equal
          · exact same ▸ larger
          · exact absurd equal.symm different
        · exact below entry inside

/-- The dictionary without entries. -/
def empty : Dictionary α := ⟨[], List.Pairwise.nil⟩

instance : Inhabited (Dictionary α) := ⟨empty⟩

/-- Adds a value under a key, or replaces the one that is there. -/
def insert (dictionary : Dictionary α) (key : Text) (value : α) : Dictionary α :=
  ⟨insertEntry key value dictionary.entries, insertEntry_ascending key value dictionary.ascending⟩

/-- The value under a key. -/
def find? (dictionary : Dictionary α) (key : Text) : Option α :=
  dictionary.entries.lookup key

/-- Whether a key has a value. -/
def contains (dictionary : Dictionary α) (key : Text) : Bool :=
  (dictionary.find? key).isSome

/-- The keys in increasing order. -/
def keys (dictionary : Dictionary α) : List Text :=
  dictionary.entries.map Prod.fst

/-- The number of keys. -/
def size (dictionary : Dictionary α) : Nat :=
  dictionary.entries.length

/-- The entries of a list, written one after the other: the last one under a key stays. -/
def ofList (entries : List (Text × α)) : Dictionary α :=
  entries.foldl (fun dictionary entry => dictionary.insert entry.1 entry.2) empty

/-- Both dictionaries as one; where both have a key, the second one's value stays. -/
def union (dictionary other : Dictionary α) : Dictionary α :=
  other.entries.foldl (fun merged entry => merged.insert entry.1 entry.2) dictionary

end Dictionary

end Phrasebook
