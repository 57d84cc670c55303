import Phrasebook.Dictionary

/-!
# Catalogs of templates

A catalog holds templates under a name and a language; the empty language is the default
one. Names, and the languages under a name, are listed in the order of their characters.
Writing to a name and language that are there replaces the template, and extending a
catalog by another writes all entries of the other.
-/

namespace Phrasebook

/-- Templates by name and language. -/
structure Catalog where
  names : Dictionary (Dictionary Text)
deriving DecidableEq

namespace Catalog

/-- The catalog without templates. -/
def empty : Catalog := ⟨Dictionary.empty⟩

instance : Inhabited Catalog := ⟨empty⟩

/-- The languages of a name with their templates, none if the name is not there. -/
def under (catalog : Catalog) (name : Text) : Dictionary Text :=
  (catalog.names.find? name).getD Dictionary.empty

/-- Adds a template, or replaces the one that is there. -/
def insert (catalog : Catalog) (name language template : Text) : Catalog :=
  ⟨catalog.names.insert name ((catalog.under name).insert language template)⟩

/-- Adds all templates of another catalog, which replace those that are there. -/
def extend (catalog other : Catalog) : Catalog :=
  ⟨other.names.entries.foldl
    (fun names entry =>
      names.insert entry.1 (((names.find? entry.1).getD Dictionary.empty).union entry.2))
    catalog.names⟩

/-- The template under a name and a language. -/
def lookup (catalog : Catalog) (name language : Text) : Option Text :=
  (catalog.names.find? name).bind fun languages => languages.find? language

/-- The languages of a name, the default one first. -/
def languages (catalog : Catalog) (name : Text) : List Text :=
  (catalog.under name).keys

/-- All names, languages and templates, in order of name and language. -/
def entries (catalog : Catalog) : List (Text × Text × Text) :=
  catalog.names.entries.flatMap fun (name, languages) =>
    languages.entries.map fun (language, template) => (name, language, template)

/-- The names of the templates. -/
def templateNames (catalog : Catalog) : List Text :=
  catalog.names.keys

/-- The number of names. -/
def size (catalog : Catalog) : Nat :=
  catalog.names.size

end Catalog

end Phrasebook
