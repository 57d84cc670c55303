import Phrasebook.Text

/-!
# Ranges of characters

A set of characters is given by the ranges of code points that make it up, each by its
first and its last one.
-/

namespace Phrasebook.Text

/-- Whether a character lies in one of the ranges. -/
def inRanges (ranges : List (Nat × Nat)) (character : Char) : Bool :=
  ranges.any fun range => range.1 ≤ character.toNat && character.toNat ≤ range.2

end Phrasebook.Text
