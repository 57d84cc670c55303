import Phrasebook.Catalog
import Phrasebook.Proofs.Dictionaries

/-!
# Reading catalogs back

A catalog is told by its look-up: the entries it lists are those that a look-up finds, each once
and in order, and a write shows under its own name and language and nowhere else.
-/

namespace Phrasebook.Catalog

/-- An empty catalog has no template. -/
theorem lookup_empty (name language : Text) : empty.lookup name language = none := rfl

/-- A look-up finds what the languages of the name hold. -/
theorem find?_under (catalog : Catalog) (name language : Text) :
    (catalog.under name).find? language = catalog.lookup name language := by
  rw [under, lookup]
  cases catalog.names.find? name with
  | none => rfl
  | some languages => rfl

/-- A write shows under its own name and language and leaves the others alone. -/
theorem lookup_insert (catalog : Catalog) (name language template otherName other : Text) :
    (catalog.insert name language template).lookup otherName other =
      if otherName = name ∧ other = language then some template
      else catalog.lookup otherName other := by
  rw [lookup, insert, Dictionary.find?_insert]
  by_cases sameName : otherName = name
  · subst sameName
    rw [if_pos rfl, Option.bind_some, Dictionary.find?_insert]
    by_cases sameLanguage : other = language
    · simp [sameLanguage]
    · simp [sameLanguage, find?_under]
  · simp [sameName, lookup]

/-- A catalog lists what a look-up finds, and nothing else. -/
theorem mem_entries_iff {catalog : Catalog} {name language template : Text} :
    (name, language, template) ∈ catalog.entries ↔
      catalog.lookup name language = some template := by
  rw [entries, lookup, List.mem_flatMap, Option.bind_eq_some_iff]
  constructor
  · rintro ⟨⟨present, languages⟩, listed, member⟩
    obtain ⟨⟨held, content⟩, inner, same⟩ := List.mem_map.mp member
    simp only [Prod.mk.injEq] at same
    obtain ⟨rfl, rfl, rfl⟩ := same
    exact ⟨languages, Dictionary.mem_entries_iff.mp listed, Dictionary.mem_entries_iff.mp inner⟩
  · rintro ⟨languages, listed, found⟩
    refine ⟨(name, languages), Dictionary.mem_entries_iff.mpr listed, List.mem_map.mpr ?_⟩
    exact ⟨(language, template), Dictionary.mem_entries_iff.mpr found, rfl⟩

/-- A catalog lists its entries in strictly increasing order of name and language. -/
theorem entries_ascending (catalog : Catalog) :
    catalog.entries.Pairwise fun earlier later =>
      earlier.1 < later.1 ∨ earlier.1 = later.1 ∧ earlier.2.1 < later.2.1 := by
  rw [entries, List.pairwise_flatMap]
  constructor
  · rintro ⟨name, languages⟩ _
    refine List.pairwise_map.mpr (languages.ascending.imp fun below => ?_)
    exact Or.inr ⟨rfl, below⟩
  · refine catalog.names.ascending.imp fun {first second} below earlier inside later inside' => ?_
    obtain ⟨_, _, rfl⟩ := List.mem_map.mp inside
    obtain ⟨_, _, rfl⟩ := List.mem_map.mp inside'
    exact Or.inl below

/-- A catalog lists no entry twice. -/
theorem entries_nodup (catalog : Catalog) : catalog.entries.Nodup := by
  refine catalog.entries_ascending.imp fun below same => ?_
  subst same
  rcases below with smaller | ⟨_, smaller⟩
  · exact List.lt_irrefl _ smaller
  · exact List.lt_irrefl _ smaller

end Phrasebook.Catalog
