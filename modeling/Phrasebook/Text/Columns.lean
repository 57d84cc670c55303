import Phrasebook.Text.Columns.Joining

/-!
# Columns of a terminal

The columns that a text takes up on a terminal are counted from its end to its start, so that
each character is placed in front of a context that is already known.
-/

namespace Phrasebook.Text

/-- The columns counted for a text and the context that it makes up. -/
def measured (text : Text) : Int × Context :=
  text.foldr
    (fun character (columns, context) =>
      let (added, context) := context.extend character
      (columns + added, context))
    (0, {})

/-- The columns that a text takes up. -/
def columns (text : Text) : Nat :=
  (measured text).1.toNat

end Phrasebook.Text
