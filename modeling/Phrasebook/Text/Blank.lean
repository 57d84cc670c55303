import Phrasebook.Text

/-!
# Blanks around a text

A blank is a character with the Unicode property White_Space, of which there are 25.
Trimming takes the blanks off both ends of a text and leaves those between other characters.
-/

namespace Phrasebook.Text

/-- The characters with the Unicode property White_Space. -/
def isBlank (character : Char) : Bool :=
  let code := character.toNat
  (0x09 ≤ code && code ≤ 0x0D) || code == 0x20 || code == 0x85 || code == 0xA0 ||
    code == 0x1680 || (0x2000 ≤ code && code ≤ 0x200A) || code == 0x2028 || code == 0x2029 ||
    code == 0x202F || code == 0x205F || code == 0x3000

/-- The text without blanks at its start. -/
def trimStart (text : Text) : Text :=
  text.dropWhile isBlank

/-- The text without blanks at its end. -/
def trimEnd (text : Text) : Text :=
  (text.reverse.dropWhile isBlank).reverse

/-- The text without blanks at either end. -/
def trim (text : Text) : Text :=
  trimEnd (trimStart text)

end Phrasebook.Text
