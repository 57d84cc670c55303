import Phrasebook.Dictionary
import Phrasebook.Value
import Phrasebook.Template.Call

/-!
# Scopes

A scope holds the variables and the functions that a template can name. A reference to a
variable stands for the text of its value, and for itself if there is no such variable.
References in running text count only if no backslash precedes their brace, and the text of
a value is not searched for further references.
-/

namespace Phrasebook

/-- A function on texts that templates can call; it may have no result. -/
abbrev TextFunction := List Text → Option Text

namespace Template

/-- The variables and functions that a template can name. -/
structure Scope where
  bindings : Dictionary Value
  functions : Dictionary TextFunction

namespace Scope

/-- What a reference stands for. -/
def referenceText (scope : Scope) (name : Text) : Text :=
  match scope.bindings.find? name with
  | some value => value.text
  | none => '{' :: name ++ ['}']

/-- What a piece of a string stands for. -/
def pieceText (scope : Scope) : Piece → Text
  | .text content => content
  | .reference name => scope.referenceText name

/-- What an argument stands for. -/
def argumentText (scope : Scope) : Argument → Text
  | .reference name => scope.referenceText name
  | .quoted pieces => pieces.flatMap scope.pieceText
  | .empty => []

end Scope

/-- The value that a reference after an opening brace stands for, and what follows it. -/
def boundReference? (bindings : Dictionary Value) (text : Text) : Option (Value × Text) :=
  match Text.breakAt? '}' text with
  | some (name, after) => (bindings.find? name).map fun value => (value, after)
  | none => none

/-- What follows a reference is shorter than the text. -/
theorem length_of_boundReference? {bindings : Dictionary Value} {text after : Text} {value : Value}
    (bound : boundReference? bindings text = some (value, after)) : after.length < text.length := by
  rw [boundReference?] at bound
  split at bound
  · rename_i name remaining broken
    simp only [Option.map_eq_some_iff, Prod.mk.injEq] at bound
    obtain ⟨_, _, _, rfl⟩ := bound
    exact Text.length_of_breakAt? broken
  · simp at bound

/-- Puts in the values of references; `escaped` says whether a backslash precedes the text. -/
def substituteAfter (bindings : Dictionary Value) (escaped : Bool) (text : Text) : Text :=
  match text with
  | [] => []
  | first :: rest =>
    if first == '{' && !escaped then
      match bound : boundReference? bindings rest with
      | some (value, after) =>
        have : after.length < rest.length := length_of_boundReference? bound
        value.text ++ substituteAfter bindings false after
      | none => '{' :: substituteAfter bindings false rest
    else first :: substituteAfter bindings (first == '\\') rest
termination_by text.length
decreasing_by
  all_goals simp_wf
  all_goals omega

/-- Puts the values of variables in place of all references that are not escaped. -/
def substitute (bindings : Dictionary Value) (text : Text) : Text :=
  substituteAfter bindings false text

end Template

end Phrasebook
