import Phrasebook.Number.Literal
import Phrasebook.Template.Scope
import Phrasebook.Text.Blank

/-!
# Functions for templates

Three functions are at hand in every template: `opt` shows a text under a condition, `plur`
puts a word in the plural unless its count is one, and `trn` chooses between two texts. An
argument that is not given counts as empty. A registry names the functions that a renderer
knows; layering one map over another lets the upper one win.
-/

namespace Phrasebook

open Number

/-- A text in lower case as far as its letters are ASCII. -/
def asciiLower (text : Text) : Text :=
  text.map Char.toLower

/-- Whether an argument holds as a condition: it is not empty, `0` or `false`, blanks aside. -/
def truthy (argument : Text) : Bool :=
  let bare := Text.trim argument
  !(bare.isEmpty || bare == ['0'] || asciiLower bare == "false".toList)

/-- An argument by its position. -/
def argumentAt (arguments : List Text) (position : Nat) : Text :=
  arguments.getD position []

/-- Whether a text writes the number one. -/
def writesOne (text : Text) : Bool :=
  match Binary64.read? (Text.trim text) with
  | some value => value.sameNumber Binary64.one
  | none => false

/-- The first argument if the second holds, else nothing. -/
def opt : TextFunction := fun arguments =>
  some (if truthy (argumentAt arguments 1) then argumentAt arguments 0 else [])

/-- The first argument without blanks at its end, followed by the third, or by an `s`, unless the
second writes the number one. -/
def plur : TextFunction := fun arguments =>
  let word := Text.trimEnd (argumentAt arguments 0)
  some (if writesOne (argumentAt arguments 1) then word else word ++ arguments.getD 2 ['s'])

/-- The second argument if the first holds, else the third. -/
def trn : TextFunction := fun arguments =>
  some (if truthy (argumentAt arguments 0) then argumentAt arguments 1 else argumentAt arguments 2)

/-- Named functions. -/
abbrev Registry := Dictionary TextFunction

/-- The registry of the three functions that are always at hand. -/
def Registry.builtins : Registry :=
  Dictionary.ofList [("opt".toList, opt), ("plur".toList, plur), ("trn".toList, trn)]

end Phrasebook
