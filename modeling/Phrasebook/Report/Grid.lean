import Phrasebook.Catalog
import Phrasebook.Text.Columns

/-!
# Tables for a terminal

A table has a heading and rows of cells in a frame. Every cell is padded to the widest line
of its column, with one blank on either side, and a further blank separates the columns. A
cell with line breaks takes up several lines, and the other cells of its row are filled up.
-/

namespace Phrasebook.Report

/-- The lines of a text, which a line break separates. -/
def linesOf : Text → List Text
  | [] => [[]]
  | first :: rest =>
    if first = '\n' then [] :: linesOf rest
    else
      match linesOf rest with
      | [] => [[first]]
      | line :: lines => (first :: line) :: lines

/-- A text filled up with blanks to a number of columns. -/
def padTo (columns : Nat) (text : Text) : Text :=
  text ++ List.replicate (columns - Text.columns text) ' '

/-- The columns that the widest line of a cell takes up. -/
def cellColumns (cell : Text) : Nat :=
  ((linesOf cell).map Text.columns).foldl max 0

/-- The widest cell of each column. -/
def columnWidths : List (List Text) → List Nat
  | [] => []
  | [row] => row.map cellColumns
  | row :: rows => List.zipWith max (row.map cellColumns) (columnWidths rows)

/-- One line of a row: a line of each cell. -/
def lineText (widths : List Nat) (parts : List Text) : Text :=
  let cells := List.zipWith (fun width part => ' ' :: padTo width part ++ [' ']) widths parts
  '│' :: Text.join [' '] cells ++ ['│']

/-- All lines of a row. -/
def rowLines (widths : List Nat) (row : List Text) : List Text :=
  let cells := row.map linesOf
  let height := (cells.map List.length).foldl max 0
  (List.range height).map fun line => lineText widths (cells.map fun cell => cell.getD line [])

/-- A line of the frame. -/
def frameLine (left middle right : Char) (widths : List Nat) : Text :=
  left :: List.replicate ((widths.map (· + 2)).foldr (· + ·) 0 + (widths.length - 1)) middle ++ [right]

/-- A heading and rows in a frame, without a line break at the end. -/
def grid (heading : List Text) (rows : List (List Text)) : Text :=
  let widths := columnWidths (heading :: rows)
  Text.join ['\n']
    (frameLine '┌' '─' '┐' widths :: rowLines widths heading ++ frameLine '╞' '═' '╡' widths ::
      rows.flatMap (rowLines widths) ++ [frameLine '└' '─' '┘' widths])

/-- A language as it is shown to a reader. -/
def languageLabel (language : Text) : Text :=
  if language.isEmpty then "(default)".toList else language

/-- The names of a catalog with their languages. -/
def catalogTable (catalog : Catalog) : Text :=
  grid ["Template".toList, "Languages".toList]
    (catalog.templateNames.map fun name =>
      [name, Text.join [',', ' '] ((catalog.languages name).map languageLabel)])

/-- A template that could not be rendered, and why. -/
structure Failure where
  name : Text
  language : Text
  error : Text
deriving DecidableEq

/-- The templates that could not be rendered. -/
def failureTable (failures : List Failure) : Text :=
  grid ["Template".toList, "Language".toList, "Error".toList]
    (failures.map fun failure => [failure.name, languageLabel failure.language, failure.error])

end Phrasebook.Report
