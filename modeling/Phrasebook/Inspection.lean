import Phrasebook.Description
import Phrasebook.Number.Layout

/-!
# Inspected forms

For someone who looks into a running program, values, registries and descriptions have a
form that tells their kind: the name of the kind in front of its parts, texts between quotes
with escapes. Functions are shown by their names, and a computed text not at all.
-/

namespace Phrasebook.Inspection

open Number

/-- A character between quotes. -/
def characterForm (character : Char) : Text :=
  if character = '"' then ['\\', '"']
  else if character = '\\' then ['\\', '\\']
  else if character = '\n' then ['\\', 'n']
  else if character = '\r' then ['\\', 'r']
  else if character = '\t' then ['\\', 't']
  else if character.toNat = 0 then ['\\', '0']
  else if character.toNat < 0x20 ∨ character.toNat = 0x7F then
    '\\' :: 'u' :: '{' :: Nat.toDigits 16 character.toNat ++ ['}']
  else [character]

/-- A text. -/
def textForm (content : Text) : Text :=
  '"' :: content.flatMap characterForm ++ ['"']

/-- A list of texts. -/
def textsForm (contents : List Text) : Text :=
  '[' :: Text.join [',', ' '] (contents.map textForm) ++ [']']

/-- A value. -/
def valueForm : Value → Text
  | .bool truth => "Bool(".toList ++ Value.text (.bool truth) ++ [')']
  | .number value => "Number(".toList ++ integerText value.toInt ++ [')']
  | .float value => "Float(".toList ++ inspection.text value ++ [')']
  | .string content => "String(".toList ++ textForm content ++ [')']

/-- Variables with their values. -/
def variablesForm (bindings : Dictionary Value) : Text :=
  '{' :: Text.join [',', ' '] (bindings.entries.map fun (name, value) =>
    textForm name ++ ':' :: ' ' :: valueForm value) ++ ['}']

/-- A registry, by the names of its functions. -/
def registryForm (registry : Registry) : Text :=
  "FunctionRegistry \x7b functions: ".toList ++ textsForm registry.keys ++ " \x7d".toList

/-- A description. -/
def descriptionForm {m : Type → Type} : Description m → Text
  | .immediate content => "Immediate(".toList ++ textForm content ++ [')']
  | .computed _ => "Thunk(..)".toList
  | .template reference =>
    "Template(TemplateRef \x7b name: ".toList ++ textForm reference.name ++
      ", vars: ".toList ++ variablesForm reference.bindings ++
      ", funcs: ".toList ++ textsForm reference.functions.keys ++ " \x7d)".toList

end Phrasebook.Inspection
