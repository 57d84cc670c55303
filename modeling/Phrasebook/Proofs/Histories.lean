import Mathlib.Data.List.Dedup
import Phrasebook.Proofs.ByteOrder
import Phrasebook.Proofs.Catalogs

/-!
# The history of a catalog

A catalog is built by changes: a template is inserted, or the catalog is extended by another one
that was built in the same way. Written out, the changes are a log of single writes, and the log
tells all there is to know of the catalog. The last write to a name and a language is what a
look-up finds. Names, languages and entries are those that were written, once each and in the
order of their bytes. And as extending appends one log to another, it is associative.
-/

namespace Phrasebook.Catalog

/-- One change of a catalog. A catalog that it is extended by was built by changes, too. -/
inductive Change where
  | insert (name language template : Text)
  | extend (changes : List Change)

mutual

/-- A catalog after a change. -/
def Change.apply : Change → Catalog → Catalog
  | .insert name language template, catalog => catalog.insert name language template
  | .extend changes, catalog => catalog.extend (afterAll changes empty)

/-- A catalog after several changes, one after the other. -/
def afterAll : List Change → Catalog → Catalog
  | [], catalog => catalog
  | change :: rest, catalog => afterAll rest (change.apply catalog)

end

/-- The catalog that is built by changes. -/
def built (changes : List Change) : Catalog := afterAll changes empty

mutual

/-- The names, languages and templates that a change writes, in order. -/
def Change.writes : Change → List (Text × Text × Text)
  | .insert name language template => [(name, language, template)]
  | .extend changes => log changes

/-- The names, languages and templates that changes write, in order. -/
def log : List Change → List (Text × Text × Text)
  | [] => []
  | change :: rest => change.writes ++ log rest

end

/-- What a catalog tells of a log. -/
structure Tells (catalog : Catalog) (log : List (Text × Text × Text)) : Prop where
  /-- A look-up finds the last write to the name and the language. -/
  lookup_eq_some_iff : ∀ name language template,
    catalog.lookup name language = some template ↔
      ∃ before after, log = before ++ (name, language, template) :: after ∧
        ∀ write ∈ after, ¬(write.1 = name ∧ write.2.1 = language)
  /-- A look-up finds nothing if there was no such write. -/
  lookup_eq_none_iff : ∀ name language,
    catalog.lookup name language = none ↔ ∀ template, (name, language, template) ∉ log
  /-- The entries are what a look-up finds. -/
  mem_entries_iff : ∀ name language template,
    (name, language, template) ∈ catalog.entries ↔ catalog.lookup name language = some template
  /-- There is an entry for each name and language that was written. -/
  exists_entry_iff : ∀ name language,
    (∃ template, (name, language, template) ∈ catalog.entries) ↔
      ∃ template, (name, language, template) ∈ log
  /-- Names and languages of the entries increase strictly, so there is one entry for each. -/
  entries_ascending : catalog.entries.Pairwise fun earlier later =>
    earlier.1.bytes < later.1.bytes ∨
      earlier.1 = later.1 ∧ earlier.2.1.bytes < later.2.1.bytes
  /-- The names are those that were written. -/
  mem_templateNames_iff : ∀ name,
    name ∈ catalog.templateNames ↔ ∃ language template, (name, language, template) ∈ log
  /-- Names increase strictly. -/
  templateNames_ascending :
    catalog.templateNames.Pairwise fun earlier later => earlier.bytes < later.bytes
  /-- The size is the number of names that were written. -/
  size_eq : catalog.size = (log.map Prod.fst).dedup.length
  /-- The languages of a name are those in which it was written. -/
  mem_languages_iff : ∀ name language,
    language ∈ catalog.languages name ↔ ∃ template, (name, language, template) ∈ log
  /-- Languages increase strictly. -/
  languages_ascending : ∀ name,
    (catalog.languages name).Pairwise fun earlier later => earlier.bytes < later.bytes
  /-- The default language comes first, if the name was written in it. -/
  head_languages_iff : ∀ name,
    (catalog.languages name).head? = some [] ↔ ∃ template, (name, [], template) ∈ log

/-- The template of the last write to a name and a language in a log. -/
def lastWrite? (name language : Text) : List (Text × Text × Text) → Option Text
  | [] => none
  | write :: later =>
    (lastWrite? name language later).or
      (if write.1 = name ∧ write.2.1 = language then some write.2.2 else none)

/-- A later log is searched first. -/
theorem lastWrite?_append (name language : Text) (earlier later : List (Text × Text × Text)) :
    lastWrite? name language (earlier ++ later) =
      (lastWrite? name language later).or (lastWrite? name language earlier) := by
  induction earlier with
  | nil => simp [lastWrite?]
  | cons write earlier inductionHypothesis =>
    rw [List.cons_append, lastWrite?, inductionHypothesis, lastWrite?, Option.or_assoc]

/-- There is a last write if there is a write. -/
theorem lastWrite?_eq_none_iff {name language : Text} {log : List (Text × Text × Text)} :
    lastWrite? name language log = none ↔ ∀ template, (name, language, template) ∉ log := by
  induction log with
  | nil => simp [lastWrite?]
  | cons write later inductionHypothesis =>
    obtain ⟨writtenName, writtenLanguage, content⟩ := write
    rw [lastWrite?, Option.or_eq_none_iff, inductionHypothesis]
    by_cases here : writtenName = name ∧ writtenLanguage = language
    · obtain ⟨rfl, rfl⟩ := here
      simp only [and_self, if_true, reduceCtorEq, and_false, false_iff, not_forall, not_not]
      exact ⟨content, List.mem_cons_self⟩
    · have apart (template : Text) :
          (name, language, template) ≠ (writtenName, writtenLanguage, content) := by
        rintro ⟨rfl, rfl, rfl⟩
        exact here ⟨rfl, rfl⟩
      simp [here, apart]

/-- The last write is one behind which there is no other. -/
theorem lastWrite?_eq_some_iff {name language template : Text} {log : List (Text × Text × Text)} :
    lastWrite? name language log = some template ↔
      ∃ before after, log = before ++ (name, language, template) :: after ∧
        ∀ write ∈ after, ¬(write.1 = name ∧ write.2.1 = language) := by
  constructor
  · intro found
    induction log with
    | nil => simp [lastWrite?] at found
    | cons write later inductionHypothesis =>
      rw [lastWrite?, Option.or_eq_some_iff] at found
      rcases found with inside | ⟨nothing, here⟩
      · obtain ⟨before, after, rfl, last⟩ := inductionHypothesis inside
        exact ⟨write :: before, after, rfl, last⟩
      · split at here
        · rename_i same
          obtain ⟨rfl, rfl⟩ := same
          obtain rfl := Option.some.inj here
          refine ⟨[], later, rfl, fun other member ⟨sameName, sameLanguage⟩ => ?_⟩
          refine lastWrite?_eq_none_iff.mp nothing other.2.2 ?_
          rw [← sameName, ← sameLanguage]
          exact member
        · simp at here
  · rintro ⟨before, after, rfl, last⟩
    have nothing : lastWrite? name language after = none :=
      lastWrite?_eq_none_iff.mpr fun template member => last _ member ⟨rfl, rfl⟩
    rw [lastWrite?_append, lastWrite?, nothing]
    simp

/-- Where a catalog is extended, the languages of a name are united, if the other catalog has it. -/
theorem find?_names_extend (catalog other : Catalog) (name : Text) :
    (catalog.extend other).names.find? name =
      ((other.names.find? name).map (catalog.under name).union).or (catalog.names.find? name) :=
  Dictionary.find?_foldl_combine
    (fun held languages => (held.getD Dictionary.empty).union languages) other.names.ascending
    catalog.names name

/-- The languages of a name in an extended catalog are those in either catalog. -/
theorem under_extend (catalog other : Catalog) (name : Text) :
    (catalog.extend other).under name = (catalog.under name).union (other.under name) := by
  rw [under, find?_names_extend, under.eq_def other]
  cases other.names.find? name with
  | none => rfl
  | some languages => rfl

/-- Where a catalog is extended, the other catalog is looked up first. -/
theorem lookup_extend (catalog other : Catalog) (name language : Text) :
    (catalog.extend other).lookup name language =
      (other.lookup name language).or (catalog.lookup name language) := by
  rw [← find?_under, ← find?_under, ← find?_under, under_extend, Dictionary.find?_union]

/-- It does not matter which of two extensions is made first. -/
theorem extend_assoc (first second third : Catalog) :
    (first.extend second).extend third = first.extend (second.extend third) := by
  have held (name : Text) : ((first.extend second).extend third).names.find? name =
      (first.extend (second.extend third)).names.find? name := by
    rw [find?_names_extend, find?_names_extend, find?_names_extend, find?_names_extend,
      under_extend]
    cases third.names.find? name with
    | none => simp
    | some languages => simp [Dictionary.union_assoc, under]
  exact congrArg Catalog.mk (Dictionary.ext_find? held)

/-- The names of an extended catalog are those of either catalog. -/
theorem mem_templateNames_extend {catalog other : Catalog} {name : Text}
    (listed : name ∈ (catalog.extend other).templateNames) :
    name ∈ other.templateNames ∨ name ∈ catalog.templateNames := by
  obtain ⟨languages, found⟩ := Dictionary.mem_keys_iff.mp listed
  rw [find?_names_extend, Option.or_eq_some_iff, Option.map_eq_some_iff] at found
  rcases found with ⟨_, there, _⟩ | ⟨_, here⟩
  · exact Or.inl (Dictionary.mem_keys_iff.mpr ⟨_, there⟩)
  · exact Or.inr (Dictionary.mem_keys_iff.mpr ⟨_, here⟩)

/-- A write adds no name but its own. -/
theorem mem_templateNames_insert {catalog : Catalog} {name language template other : Text}
    (listed : other ∈ (catalog.insert name language template).templateNames) :
    other = name ∨ other ∈ catalog.templateNames := by
  obtain ⟨languages, found⟩ := Dictionary.mem_keys_iff.mp listed
  rw [insert, Dictionary.find?_insert] at found
  split at found
  · rename_i same
    exact Or.inl same
  · exact Or.inr (Dictionary.mem_keys_iff.mpr ⟨_, found⟩)

/-- A look-up that finds something finds it under a listed name. -/
theorem mem_templateNames_of_lookup {catalog : Catalog} {name language template : Text}
    (found : catalog.lookup name language = some template) : name ∈ catalog.templateNames := by
  obtain ⟨languages, there, _⟩ := Option.bind_eq_some_iff.mp found
  exact Dictionary.mem_keys_iff.mpr ⟨languages, there⟩

/-- The languages of a name are those in which a look-up finds something. -/
theorem mem_languages_iff {catalog : Catalog} {name language : Text} :
    language ∈ catalog.languages name ↔
      ∃ template, catalog.lookup name language = some template := by
  rw [languages, Dictionary.mem_keys_iff]
  simp only [find?_under]

/-- Every name has a template in some language. -/
def Furnished (catalog : Catalog) : Prop :=
  ∀ name ∈ catalog.templateNames, ∃ language template,
    catalog.lookup name language = some template

/-- An empty catalog has no name without a template. -/
theorem furnished_empty : empty.Furnished :=
  fun _ listed => absurd listed List.not_mem_nil

/-- A write leaves no name without a template. -/
theorem Furnished.insert {catalog : Catalog} (furnished : catalog.Furnished)
    (name language template : Text) : (catalog.insert name language template).Furnished := by
  intro other listed
  by_cases same : other = name
  · exact ⟨language, template, by rw [lookup_insert, if_pos ⟨same, rfl⟩]⟩
  · have present := (mem_templateNames_insert listed).resolve_left same
    obtain ⟨there, held, found⟩ := furnished other present
    exact ⟨there, held, by rw [lookup_insert, if_neg (fun both => same both.1), found]⟩

/-- An extension leaves no name without a template. -/
theorem Furnished.extend {catalog other : Catalog} (furnished : catalog.Furnished)
    (furnished' : other.Furnished) : (catalog.extend other).Furnished := by
  intro name listed
  have either : ∃ language template, other.lookup name language = some template ∨
      catalog.lookup name language = some template := by
    rcases mem_templateNames_extend listed with there | here
    · obtain ⟨language, template, found⟩ := furnished' name there
      exact ⟨language, template, Or.inl found⟩
    · obtain ⟨language, template, found⟩ := furnished name here
      exact ⟨language, template, Or.inr found⟩
  obtain ⟨language, template, found⟩ := either
  cases there : other.lookup name language with
  | some held => exact ⟨language, held, by rw [lookup_extend, there, Option.some_or]⟩
  | none =>
    rw [there] at found
    exact ⟨language, template, by rw [lookup_extend, there, Option.none_or]; simpa using found⟩

mutual

/-- A change shows by its last writes and leaves the other templates alone. -/
theorem Change.lookup_apply (change : Change) (catalog : Catalog) (name language : Text) :
    (change.apply catalog).lookup name language =
      (lastWrite? name language change.writes).or (catalog.lookup name language) := by
  cases change with
  | insert writtenName writtenLanguage template =>
    rw [Change.apply, Change.writes, lookup_insert, lastWrite?, lastWrite?, Option.none_or]
    by_cases here : name = writtenName ∧ language = writtenLanguage
    · obtain ⟨rfl, rfl⟩ := here
      simp
    · have apart : ¬(writtenName = name ∧ writtenLanguage = language) := by
        rintro ⟨rfl, rfl⟩
        exact here ⟨rfl, rfl⟩
      rw [if_neg here, if_neg apart, Option.none_or]
  | extend changes =>
    rw [Change.apply, Change.writes, lookup_extend, lookup_afterAll changes, lookup_empty,
      Option.or_none]

/-- Changes show by their last writes and leave the other templates alone. -/
theorem lookup_afterAll (changes : List Change) (catalog : Catalog) (name language : Text) :
    (afterAll changes catalog).lookup name language =
      (lastWrite? name language (log changes)).or (catalog.lookup name language) := by
  cases changes with
  | nil => rw [afterAll, log, lastWrite?, Option.none_or]
  | cons change rest =>
    rw [afterAll, log, lastWrite?_append, lookup_afterAll rest, change.lookup_apply,
      Option.or_assoc]

end

mutual

/-- A change leaves no name without a template. -/
theorem Change.furnished_apply (change : Change) {catalog : Catalog}
    (furnished : catalog.Furnished) : (change.apply catalog).Furnished := by
  cases change with
  | insert name language template =>
    rw [Change.apply]
    exact furnished.insert name language template
  | extend changes =>
    rw [Change.apply]
    exact furnished.extend (furnished_afterAll changes furnished_empty)

/-- Changes leave no name without a template. -/
theorem furnished_afterAll (changes : List Change) {catalog : Catalog}
    (furnished : catalog.Furnished) : (afterAll changes catalog).Furnished := by
  cases changes with
  | nil =>
    rw [afterAll]
    exact furnished
  | cons change rest =>
    rw [afterAll]
    exact furnished_afterAll rest (change.furnished_apply furnished)

end

/-- Among texts that increase strictly, the empty one comes first. -/
theorem head?_of_mem_nil {texts : List Text} (ascending : texts.Pairwise (· < ·))
    (member : [] ∈ texts) : texts.head? = some [] := by
  cases texts with
  | nil => simp at member
  | cons first rest =>
    rcases List.mem_cons.mp member with same | behind
    · rw [List.head?_cons, same]
    · exact absurd ((List.pairwise_cons.mp ascending).1 [] behind) (List.not_lt_nil first)

/-- A catalog tells of a log if it finds the last writes and has no name without a template. -/
theorem tells_of_lookup {catalog : Catalog} {log : List (Text × Text × Text)}
    (furnished : catalog.Furnished)
    (lookup : ∀ name language, catalog.lookup name language = lastWrite? name language log) :
    catalog.Tells log := by
  have written (name language : Text) :
      (∃ template, catalog.lookup name language = some template) ↔
        ∃ template, (name, language, template) ∈ log := by
    rw [← Option.ne_none_iff_exists', lookup, ne_eq, lastWrite?_eq_none_iff]
    simp only [not_forall, not_not]
  have named (name : Text) : name ∈ catalog.templateNames ↔
      ∃ language template, (name, language, template) ∈ log := by
    simp only [← written]
    constructor
    · exact furnished name
    · rintro ⟨language, template, found⟩
      exact mem_templateNames_of_lookup found
  have spoken (name language : Text) : language ∈ catalog.languages name ↔
      ∃ template, (name, language, template) ∈ log :=
    mem_languages_iff.trans (written name language)
  have namesAscending : catalog.templateNames.Pairwise (· < ·) :=
    List.pairwise_map.mpr catalog.names.ascending
  have languagesAscending (name : Text) : (catalog.languages name).Pairwise (· < ·) :=
    List.pairwise_map.mpr (catalog.under name).ascending
  exact {
    lookup_eq_some_iff := fun name language template => by
      rw [lookup]
      exact lastWrite?_eq_some_iff
    lookup_eq_none_iff := fun name language => by
      rw [lookup]
      exact lastWrite?_eq_none_iff
    mem_entries_iff := fun name language template => Catalog.mem_entries_iff
    exists_entry_iff := fun name language => by
      simp only [Catalog.mem_entries_iff]
      exact written name language
    entries_ascending := by
      simp only [Text.bytes_lt_bytes_iff]
      exact Catalog.entries_ascending catalog
    mem_templateNames_iff := named
    templateNames_ascending := by
      simp only [Text.bytes_lt_bytes_iff]
      exact namesAscending
    size_eq := by
      have distinct : catalog.templateNames.Nodup := namesAscending.nodup
      have same : catalog.templateNames.Perm (log.map Prod.fst).dedup := by
        refine (List.perm_ext_iff_of_nodup distinct (List.nodup_dedup _)).mpr fun name => ?_
        rw [named, List.mem_dedup]
        simp
      rw [← same.length_eq]
      exact (List.length_map _).symm
    mem_languages_iff := spoken
    languages_ascending := fun name => by
      simp only [Text.bytes_lt_bytes_iff]
      exact languagesAscending name
    head_languages_iff := fun name => by
      rw [← spoken]
      exact ⟨List.mem_of_mem_head?, head?_of_mem_nil (languagesAscending name)⟩ }

/-- A catalog that is built by changes tells of their log, and extending is associative.

Proof: by induction on the changes, each change adds its writes to those before it, and every name
has a template. -/
theorem built_tells_log :
    (∀ changes, (built changes).Tells (log changes)) ∧
      ∀ first second third : Catalog,
        (first.extend second).extend third = first.extend (second.extend third) := by
  refine ⟨fun changes => ?_, extend_assoc⟩
  refine tells_of_lookup (furnished_afterAll changes furnished_empty) fun name language => ?_
  rw [built, lookup_afterAll, lookup_empty, Option.or_none]

/-- An extension replaces a template in one language and keeps the other languages of the name. -/
example :
    (built [.insert ['a'] ['d'] ['1'], .insert ['a'] [] ['2'],
        .extend [.insert ['a'] [] ['3']]]).entries =
      [(['a'], [], ['3']), (['a'], ['d'], ['1'])] := by
  decide

end Phrasebook.Catalog
