import Phrasebook.Catalog
import Phrasebook.Json.Nesting
import Phrasebook.Json.Writer

/-!
# Catalogs as JSON

A catalog is written as an object that has a member for each name, and this is an object
that has a member for each language with the template as a string. Reading allows blanks
and any order. Of several members with one key the last one counts, and for a name this
means that the languages of an earlier member are lost.
-/

namespace Phrasebook.Catalog

open Text (following)
open Json (Fault skipBlanks)

/-- Reads members after an opening brace or a comma, and the closing brace.

The bound is on the number of members; a text has fewer than it has characters. -/
def readMembers {α : Type} (readContent : Text → Except Fault (α × Text)) :
    (bound : Nat) → (first : Bool) → Text → Except Fault (List (Text × α) × Text)
  | 0, _, _ => .error .truncated
  | bound + 1, first, text =>
    match skipBlanks text with
    | [] => .error .truncated
    | '}' :: rest => if first then .ok ([], rest) else .error .malformed
    | '"' :: rest =>
      match Json.readKey rest with
      | .error fault => .error fault
      | .ok (key, rest) =>
        match readContent (skipBlanks rest) with
        | .error fault => .error fault
        | .ok (content, rest) =>
          match skipBlanks rest with
          | [] => .error .truncated
          | '}' :: rest => .ok ([(key, content)], rest)
          | ',' :: rest => following (key, content) (readMembers readContent bound false rest)
          | _ => .error .malformed
    | _ => .error .malformed

/-- Reads an object as a dictionary. -/
def readObject {α : Type} (readContent : Text → Except Fault (α × Text)) (text : Text) :
    Except Fault (Dictionary α × Text) :=
  match text with
  | '{' :: rest =>
    match readMembers readContent (rest.length + 1) true rest with
    | .error fault => .error fault
    | .ok (members, after) => .ok (Dictionary.ofList members, after)
  | _ => Json.mismatch text

/-- Reads a template. -/
def readTemplate (text : Text) : Except Fault (Text × Text) :=
  match text with
  | '"' :: rest => Json.readString rest
  | _ => Json.mismatch text

/-- Reads a document that is a catalog. -/
def ofJson (document : Text) : Except Fault Catalog :=
  match readObject (readObject readTemplate) (skipBlanks document) with
  | .error fault => .error fault
  | .ok (names, after) => (Json.readEnd after).map fun _ => ⟨names⟩

/-- Writes a catalog without blanks. -/
def toJson (catalog : Catalog) : Text :=
  Json.objectText (catalog.names.entries.map fun (name, languages) =>
    (name, Json.objectText (languages.entries.map fun (language, template) =>
      (language, Json.stringText template))))

end Phrasebook.Catalog
