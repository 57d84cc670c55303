import Phrasebook.Text

/-!
# Lines of files

The content of a file is known line by line, each line with the break that ends it. A line
whose bytes are not in UTF-8 is no text; since no part of a character looks like a line
break, a file is in UTF-8 exactly if each of its lines is.
-/

namespace Phrasebook

/-- The lines of a file with their line breaks; a line that is no text is `none`. -/
abbrev FileLines := List (Option Text)

/-- Bytes as a text, if they are one. -/
def Text.ofBytes? (bytes : List UInt8) : Option Text :=
  (String.fromUTF8? bytes.toByteArray).map String.toList

/-- The lines of a text with their line breaks. -/
def Text.brokenLines : Text → List Text
  | [] => []
  | first :: rest =>
    if first = '\n' then [first] :: brokenLines rest
    else
      match brokenLines rest with
      | [] => [[first]]
      | line :: lines => (first :: line) :: lines

namespace FileLines

/-- The lines of a file that holds a text. -/
def ofText (text : Text) : FileLines :=
  text.brokenLines.map some

/-- The lines of a file that holds some bytes. -/
def ofBytes (bytes : List UInt8) : FileLines :=
  (bytes.splitBy fun before _ => before != 10).map Text.ofBytes?

/-- The content of a file, if it is a text. -/
def text? (lines : FileLines) : Option Text :=
  (lines.mapM id).map List.flatten

end FileLines

end Phrasebook
