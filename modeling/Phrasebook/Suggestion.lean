import Phrasebook.Text

/-!
# Suggestions for a misspelt name

Two names are near each other if few insertions, deletions and replacements of a character
turn one into the other: one for a wanted name of three characters or less, else two. Of the
names near the wanted one, but different from it, the three nearest are suggested, and names
at the same distance in the order of their characters.

The distance is computed row by row. A row holds the distances from one final part of the
first name to all final parts of the second, the shortest last.
-/

namespace Phrasebook.Suggestion

/-- The row for one more character of the first name, from the row before it.

`target` is what remains of the second name and `row` has one distance more than `target` has
characters. -/
def nextRow (character : Char) : (target : Text) → (row : List Nat) → List Nat
  | first :: target, removed :: replaced :: row =>
    match nextRow character target (replaced :: row) with
    | [] => []
    | inserted :: others =>
      (if character = first then replaced else min (min inserted removed) replaced + 1) ::
        inserted :: others
  | _, row => row.map (· + 1)

/-- The distances from a name to all final parts of another. -/
def distances (target : Text) : Text → List Nat
  | [] => (List.range (target.length + 1)).reverse
  | character :: rest => nextRow character target (distances target rest)

/-- The least number of insertions, deletions and replacements from one name to another. -/
def distance (source target : Text) : Nat :=
  (distances target source).headD 0

/-- The greatest distance at which a name counts as near. -/
def tolerance (wanted : Text) : Nat :=
  if wanted.length ≤ 3 then 1 else 2

/-- Whether a name with its distance comes before another, or is the same. -/
def precedes (first second : Nat × Text) : Bool :=
  first.1 < second.1 || (first.1 == second.1 && !(second.2 < first.2))

/-- The names near a wanted one with their distances. -/
def candidates (wanted : Text) (names : List Text) : List (Nat × Text) :=
  ((names.filter (· != wanted)).map fun name => (distance wanted name, name)).filter
    fun candidate => candidate.1 ≤ tolerance wanted

/-- The names to suggest for a wanted one. -/
def suggestions (wanted : Text) (names : List Text) : List Text :=
  (((candidates wanted names).mergeSort precedes).take 3).map (·.2)

end Phrasebook.Suggestion
