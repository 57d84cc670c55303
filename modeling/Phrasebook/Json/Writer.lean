import Phrasebook.Number.Layout
import Phrasebook.Value

/-!
# Writing JSON

Strings are written between quotes. A quote, a backslash and the control characters are
escaped, and nothing else is: five control characters have a letter, the others are written
by their code. Objects and lists are written either without blanks or with one member a line,
indented by two blanks for each level.
-/

namespace Phrasebook.Json

/-- A hexadecimal digit in lower case. -/
def hexDigit (value : Nat) : Char :=
  Nat.digitChar value

/-- A character inside a string. -/
def escapeChar (character : Char) : Text :=
  if character = '"' then ['\\', '"']
  else if character = '\\' then ['\\', '\\']
  else if character = '\x08' then ['\\', 'b']
  else if character = '\t' then ['\\', 't']
  else if character = '\n' then ['\\', 'n']
  else if character = '\x0c' then ['\\', 'f']
  else if character = '\r' then ['\\', 'r']
  else if character.toNat < 0x20 then
    ['\\', 'u', '0', '0', hexDigit (character.toNat / 16), hexDigit (character.toNat % 16)]
  else [character]

/-- A string. -/
def stringText (content : Text) : Text :=
  '"' :: content.flatMap escapeChar ++ ['"']

/-- An object without blanks, its members being given by key and written value. -/
def objectText (members : List (Text × Text)) : Text :=
  '{' :: Text.join [','] (members.map fun (key, value) => stringText key ++ ':' :: value) ++ ['}']

/-- A binary64 number; what is no finite number is null. -/
def floatText : Number.Binary64 → Text
  | .finite negative significand exponent =>
    Number.document.text (.finite negative significand exponent)
  | _ => "null".toList

/-- A value. -/
def valueText : Value → Text
  | .bool truth => Value.text (.bool truth)
  | .number value => Number.integerText value.toInt
  | .float value => floatText value
  | .string content => stringText content

/-- A part of an indented document: its text at a level of indentation. -/
abbrev Block := Nat → Text

/-- A string as part of a document. -/
def Block.string (content : Text) : Block := fun _ => stringText content

/-- Parts between two brackets, one a line; without parts the brackets stand together. -/
def Block.enclose (opening closing : Char) (parts : List Block) : Block := fun level =>
  if parts.isEmpty then [opening, closing]
  else
    let margin := List.replicate (2 * level) ' '
    let lines := parts.map fun part => '\n' :: margin ++ ' ' :: ' ' :: part (level + 1)
    opening :: Text.join [','] lines ++ '\n' :: margin ++ [closing]

/-- A list as part of a document. -/
def Block.list (items : List Block) : Block :=
  Block.enclose '[' ']' items

/-- An object as part of a document. -/
def Block.object (members : List (Text × Block)) : Block :=
  Block.enclose '{' '}' (members.map fun (key, value) =>
    fun level => stringText key ++ ':' :: ' ' :: value level)

/-- The text of a whole document. -/
def Block.text (block : Block) : Text := block 0

end Phrasebook.Json
