import Phrasebook.Text.LetterCase.Runs
import Phrasebook.Text.LetterCase.WordEnd

/-!
# Upper and lower case

Whole texts are put in upper or lower case, because a letter can become several characters
and one letter depends on its place: a capital sigma at the end of a word becomes the final
form of the small letter. A character without another case stays as it is.
-/

namespace Phrasebook.Text

/-- The other case of a letter by the first run that covers it. -/
def shiftCase (runs : List CaseRun) (character : Char) : Char :=
  match runs.find? fun run => run.covers character.toNat with
  | some run => Char.ofNat (character.toNat + run.shift).toNat
  | none => character

/-- A character in upper case. -/
def upperChar (character : Char) : Text :=
  if character.toNat < 0x80 then [character.toUpper]
  else
    match upperExpansions.lookup character.toNat with
    | some codes => codes.map Char.ofNat
    | none => [shiftCase upperRuns character]

/-- A text in upper case. -/
def upper (text : Text) : Text :=
  text.flatMap upperChar

/-- A character in lower case, wherever it stands. -/
def lowerChar (character : Char) : Text :=
  if character.toNat < 0x80 then [character.toLower]
  else if character = 'İ' then ['i', '\u0307']
  else [shiftCase lowerRuns character]

/-- Whether the first character that separates words is a letter with a case. -/
def meetsCased (text : Text) : Bool :=
  match text.dropWhile isCaseIgnorable with
  | [] => false
  | first :: _ => isCased first

/-- Puts in lower case what follows the part `seen`, which is given from its end to its start. -/
def lowerAfter (seen : Text) : Text → Text
  | [] => []
  | first :: rest =>
    (if first = 'Σ' then
      (if meetsCased seen && !meetsCased rest then ['ς'] else ['σ'])
    else lowerChar first) ++ lowerAfter (first :: seen) rest

/-- A text in lower case. -/
def lower (text : Text) : Text :=
  lowerAfter [] text

end Phrasebook.Text
