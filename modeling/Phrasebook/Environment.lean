import Phrasebook.Catalog
import Phrasebook.Text.LetterCase

/-!
# Templates in the environment

The environment of a process is a list of variables. A template is held by the variable
whose key is a leading part, the name in upper case and a trailing part; for a language other
than the default one, two hyphens and the language in upper case stand behind the name. A
variable that is empty, or that is no text, holds no template.

All such variables can be gathered into a catalog, whose names are as they stand in the keys
and whose languages are in lower case. The first two hyphens of a key separate both.
-/

namespace Phrasebook

/-- A variable of the environment; its key or its content may be no text. -/
structure EnvironmentVariable where
  key : Option Text
  content : Option Text
deriving DecidableEq

/-- The variables of a process in their order. -/
abbrev Environment := List EnvironmentVariable

/-- What stands behind a key and an equals sign, if the key goes on in the content.

A variable is handed over as one text in which an equals sign ends the key, and a look-up
compares that text. A key with an equals sign in it is therefore found where its first part is
the key of a variable and the rest begins the content. -/
def EnvironmentVariable.contentBehind? (binding : EnvironmentVariable) (key : Text) :
    Option Text :=
  match binding.key, binding.content with
  | some ownKey, some content => (key ++ ['=']).isPrefixOf? (ownKey ++ '=' :: content)
  | _, _ => none

namespace Environment

/-- The content under a key, if both are texts. Nothing is found under the empty key, not even a
variable whose text begins with an equals sign. -/
def find? (environment : Environment) (key : Text) : Option Text :=
  if key.isEmpty then none
  else
    match List.find? (fun binding => binding.key == some key) environment with
    | some binding => binding.content
    | none => environment.findSome? fun binding => binding.contentBehind? key

/-- Sets a variable: in its place if it is there, else at the end. -/
def set (environment : Environment) (binding : EnvironmentVariable) : Environment :=
  if binding.key.isSome && environment.any fun present => present.key == binding.key then
    environment.map fun present => if present.key == binding.key then binding else present
  else environment ++ [binding]

/-- Takes a variable away. -/
def remove (environment : Environment) (key : Text) : Environment :=
  environment.filter fun binding => binding.key != some key

end Environment

/-- How the keys of variables that hold templates are made up. -/
structure KeyScheme where
  /-- What stands in front of the name. -/
  lead : Text := "CTOR_ENSURE_".toList
  /-- What stands behind the name and the language. -/
  trail : Text := "_DESC".toList
deriving DecidableEq

/-- What separates a language from the name. -/
def languageMark : Text := ['-', '-']

namespace KeyScheme

/-- A name as keys hold it. -/
def storedName (name : Text) : Text :=
  Text.upper name

/-- The key of the variable that holds a template. -/
def key (scheme : KeyScheme) (name language : Text) : Text :=
  scheme.lead ++ storedName name ++
    (if language.isEmpty then [] else languageMark ++ Text.upper language) ++ scheme.trail

/-- The part of a key between its leading and its trailing part, unless it is empty. -/
def stem? (scheme : KeyScheme) (key : Text) : Option Text :=
  ((scheme.lead.isPrefixOf? key).bind fun rest => scheme.trail.isSuffixOf? rest).filter
    fun stem => !stem.isEmpty

/-- The template under a name and a language. -/
def lookup (scheme : KeyScheme) (environment : Environment) (name language : Text) : Option Text :=
  (environment.find? (scheme.key name language)).filter fun template => !template.isEmpty

/-- The name, the language and the template that a variable holds. -/
def entry? (scheme : KeyScheme) (binding : EnvironmentVariable) : Option (Text × Text × Text) :=
  match binding.key, binding.content with
  | some key, some template =>
    if template.isEmpty then none
    else
      (scheme.stem? key).map fun stem =>
        match Text.breakAtWord? languageMark stem with
        | some (name, language) => (name, Text.lower language, template)
        | none => (stem, [], template)
  | _, _ => none

/-- All templates in the environment; of two with one name and language the later one stays. -/
def catalog (scheme : KeyScheme) (environment : Environment) : Catalog :=
  (environment.filterMap scheme.entry?).foldl
    (fun catalog (name, language, template) => catalog.insert name language template) Catalog.empty

/-- The names in keys without a language, in order, whatever their variables hold. -/
def names (scheme : KeyScheme) (environment : Environment) : List Text :=
  let stems := environment.filterMap fun binding => binding.key.bind scheme.stem?
  (stems.filter fun stem => (Text.breakAtWord? languageMark stem).isNone).mergeSort fun a b => !(b < a)

end KeyScheme

end Phrasebook
