import Phrasebook.Proofs.Splits

/-!
# Reading dictionaries back

What a dictionary holds is told by its look-up, and dictionaries that are looked up alike are the
same. A write shows under its own key and nowhere else, and in a union the second dictionary is
looked up first. A dictionary can also be drawn up for a list of names, with a value computed from
each name; it then holds these names and no others.
-/

namespace Phrasebook.Dictionary

universe u v
variable {α : Type u} {β : Type v}

/-- An entry that is put in its place is found under its key, and hides nothing else. -/
theorem lookup_insertEntry (key : Text) (value : α) (entries : List (Text × α)) (other : Text) :
    (insertEntry key value entries).lookup other =
      if other = key then some value else entries.lookup other := by
  induction entries with
  | nil =>
    by_cases same : other = key
    · simp [insertEntry, same]
    · have different : (other == key) = false := by simpa using same
      simp [insertEntry, List.lookup_cons, different, same]
  | cons entry rest inductionHypothesis =>
    obtain ⟨present, held⟩ := entry
    rw [insertEntry]
    split
    · by_cases same : other = key
      · simp [same]
      · have different : (other == key) = false := by simpa using same
        simp [List.lookup_cons, different, same]
    · split
      · rename_i replaced
        obtain rfl : key = present := replaced
        by_cases same : other = key
        · simp [same]
        · have different : (other == key) = false := by simpa using same
          simp [List.lookup_cons, different, same]
      · rename_i distinct
        by_cases here : other = present
        · have notKey : other ≠ key := fun same => distinct (same ▸ here)
          simp [here, here ▸ notKey]
        · have different : (other == present) = false := by simpa using here
          simp [List.lookup_cons, different, inductionHypothesis]

/-- A write shows under its own key and leaves the others alone. -/
theorem find?_insert (dictionary : Dictionary α) (key : Text) (value : α) (other : Text) :
    (dictionary.insert key value).find? other =
      if other = key then some value else dictionary.find? other :=
  lookup_insertEntry key value dictionary.entries other

/-- The dictionary that holds the given names, each with the value computed from it. -/
def tabulate (names : List Text) (value : Text → α) : Dictionary α :=
  ofList (names.map fun name => (name, value name))

/-- Writing values that depend on their keys alone adds these keys, in whatever order. -/
theorem find?_foldl_insert (names : List Text) (value : Text → α) (dictionary : Dictionary α)
    (key : Text) :
    (names.foldl (fun held name => held.insert name (value name)) dictionary).find? key =
      if key ∈ names then some (value key) else dictionary.find? key := by
  induction names generalizing dictionary with
  | nil => simp
  | cons name rest inductionHypothesis =>
    rw [List.foldl_cons, inductionHypothesis, find?_insert]
    by_cases later : key ∈ rest
    · simp [later]
    · by_cases here : key = name
      · simp [here]
      · simp [later, here]

/-- A dictionary drawn up for some names holds the value of each of them. -/
theorem find?_tabulate (names : List Text) (value : Text → α) (key : Text) :
    (tabulate names value).find? key = if key ∈ names then some (value key) else none := by
  have drawn : tabulate names value =
      names.foldl (fun held name => held.insert name (value name)) empty := by
    rw [tabulate, ofList, List.foldl_map]
  rw [drawn, find?_foldl_insert]
  rfl

/-- A dictionary drawn up for some names has these keys and no others. -/
theorem mem_keys_tabulate {names : List Text} {value : Text → α} {key : Text} :
    key ∈ (tabulate names value).keys ↔ key ∈ names := by
  rw [mem_keys_iff, find?_tabulate]
  by_cases listed : key ∈ names
  · simp [listed]
  · simp [listed]

/-- Where keys increase, an entry is listed exactly if it is found under its key. -/
theorem lookup_eq_some_iff_mem {entries : List (Text × α)} (ascending : Ascending entries)
    {key : Text} {value : α} : entries.lookup key = some value ↔ (key, value) ∈ entries := by
  induction entries with
  | nil => simp
  | cons first rest inductionHypothesis =>
    obtain ⟨present, held⟩ := first
    obtain ⟨below, tail⟩ := List.pairwise_cons.mp ascending
    by_cases here : key = present
    · subst here
      have absent : (key, value) ∉ rest := fun member =>
        List.lt_irrefl key (below (key, value) member)
      simp [absent, eq_comm]
    · have different : (key == present) = false := by simpa using here
      simp [List.lookup_cons, different, here, inductionHypothesis tail]

/-- An entry is listed exactly if it is found under its key. -/
theorem mem_entries_iff {dictionary : Dictionary α} {key : Text} {value : α} :
    (key, value) ∈ dictionary.entries ↔ dictionary.find? key = some value :=
  (lookup_eq_some_iff_mem dictionary.ascending).symm

/-- Where keys increase, no entry is listed twice. -/
theorem Ascending.nodup {entries : List (Text × α)} (ascending : Ascending entries) :
    entries.Nodup := by
  refine ascending.imp fun {earlier later} below same => ?_
  rw [same] at below
  exact List.lt_irrefl _ below

/-- A dictionary is told by its look-up. -/
theorem ext_find? {first second : Dictionary α} (same : ∀ key, first.find? key = second.find? key) :
    first = second := by
  obtain ⟨entries, ascending⟩ := first
  obtain ⟨others, ascending'⟩ := second
  have members : entries.Perm others := by
    refine (List.perm_ext_iff_of_nodup (Ascending.nodup ascending) (Ascending.nodup ascending')).mpr
      fun ⟨key, value⟩ => ?_
    rw [← lookup_eq_some_iff_mem ascending, ← lookup_eq_some_iff_mem ascending']
    exact Eq.congr_left (same key)
  have equal : entries = others :=
    List.Perm.eq_of_pairwise (fun _ _ _ _ below above => absurd above (List.lt_asymm below))
      ascending ascending' members
  subst equal
  rfl

/-- Writing entries one after the other, each combined with what its key held before, changes what
their keys hold and nothing else. -/
theorem find?_foldl_combine (combine : Option α → β → α) {entries : List (Text × β)}
    (ascending : Ascending entries) (dictionary : Dictionary α) (key : Text) :
    (entries.foldl (fun held entry =>
        held.insert entry.1 (combine (held.find? entry.1) entry.2)) dictionary).find? key =
      ((entries.lookup key).map (combine (dictionary.find? key))).or (dictionary.find? key) := by
  induction entries generalizing dictionary with
  | nil => simp
  | cons entry rest inductionHypothesis =>
    obtain ⟨present, value⟩ := entry
    obtain ⟨below, tail⟩ := List.pairwise_cons.mp ascending
    rw [List.foldl_cons, inductionHypothesis tail, find?_insert]
    by_cases here : key = present
    · subst here
      have absent : rest.lookup key = none := by
        refine Option.eq_none_iff_forall_ne_some.mpr fun held found => ?_
        exact List.lt_irrefl _ (below (key, held) ((lookup_eq_some_iff_mem tail).mp found))
      simp [absent]
    · have different : (key == present) = false := by simpa using here
      simp [here, List.lookup_cons, different]

/-- In a union the second dictionary is looked up first. -/
theorem find?_union (first second : Dictionary α) (key : Text) :
    (first.union second).find? key = (second.find? key).or (first.find? key) := by
  have written := find?_foldl_combine (fun _ value => value) second.ascending first key
  rw [Option.map_id'] at written
  exact written

/-- It does not matter which of two unions is made first. -/
theorem union_assoc (first second third : Dictionary α) :
    (first.union second).union third = first.union (second.union third) := by
  refine ext_find? fun key => ?_
  rw [find?_union, find?_union, find?_union, find?_union, Option.or_assoc]

/-- Writing all entries of a dictionary, one after the other, gives the dictionary again. -/
theorem ofList_entries (dictionary : Dictionary α) : ofList dictionary.entries = dictionary := by
  refine ext_find? fun key => ?_
  have written := find?_union empty dictionary key
  exact written.trans Option.or_none

end Phrasebook.Dictionary
