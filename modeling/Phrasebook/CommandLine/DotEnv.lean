import Phrasebook.Environment
import Phrasebook.Files
import Phrasebook.Text.Alphanumeric
import Phrasebook.Text.Blank

/-!
# Files of environment variables

A file of environment variables has a line `KEY=value` for each of them. A value can be
quoted, strongly or weakly, and then go over several lines; a backslash escapes a character,
and a dollar sign puts in a variable that is known already, except between strong quotes. A
comment begins with a hash at the start of a line or after a blank. The first line that is
in error ends the reading, and what stands before it counts.

A variable that is in the environment keeps its content.
-/

namespace Phrasebook.CommandLine.DotEnv

/-- Where the reading of a line stands. -/
inductive LineState where
  | complete
  | blank
  | escape
  | strong
  | strongEscape
  | weak
  | weakEscape
deriving DecidableEq

/-- Where the reading stands after one more character. -/
def LineState.next (state : LineState) (character : Char) : LineState :=
  match state with
  | .complete | .blank =>
    if character = '\\' then .escape
    else if character = '"' then .weak
    else if character = '\'' then .strong
    else if state = .complete ∧ Text.isBlank character ∧ character ∉ ['\n', '\r'] then .blank
    else .complete
  | .escape => .complete
  | .weak => if character = '\\' then .weakEscape else if character = '"' then .complete else .weak
  | .weakEscape => .weak
  | .strong =>
    if character = '\\' then .strongEscape else if character = '\'' then .complete else .strong
  | .strongEscape => .strong

/-- A line up to a comment, if it has one, and where the reading stands at its end. -/
def cutComment (state : LineState) : Text → Text × Option LineState
  | [] => ([], some state)
  | first :: rest =>
    if state = .blank ∧ first = '#' then ([], none)
    else
      let (kept, last) := cutComment (state.next first) rest
      (first :: kept, last)

/-- A line without its line break. -/
def withoutBreak (line : Text) : Text :=
  match line.reverse with
  | '\n' :: '\r' :: rest => rest.reverse
  | '\n' :: rest => rest.reverse
  | _ => line

/-- The lines that hold one variable each, after what has been read of the current one.

A line that is no text, or that is not completed before the end of the file, is given as
`none`, and no line follows it. -/
def logicalLines (pending : Text) (state : LineState) : FileLines → List (Option Text)
  | [] => if state = .complete then [] else [none]
  | none :: _ => [none]
  | some line :: lines =>
    if (Text.trimStart (pending ++ line)).head? = some '#' then logicalLines [] .complete lines
    else
      match cutComment state line with
      | (kept, none) => some (pending ++ kept) :: logicalLines [] .complete lines
      | (_, some .complete) =>
        some (withoutBreak (pending ++ line)) :: logicalLines [] .complete lines
      | (_, some state) => logicalLines (pending ++ line) state lines

/-- How far the naming of a variable that is to be put in has come. -/
inductive Naming where
  | idle
  | bare
  | braced
deriving DecidableEq

/-- Where the reading of a value stands. -/
structure ValueState where
  strong : Bool := false
  weak : Bool := false
  escaped : Bool := false
  ended : Bool := false
  naming : Naming := .idle
  name : Text := []
  output : Text := []

/-- The content of a known variable is put in. -/
def ValueState.putIn (environment : Environment) (state : ValueState) : ValueState :=
  { state with
    output := state.output ++ (environment.find? state.name).getD []
    name := [] }

/-- The state with one more character of the value. -/
def ValueState.push (state : ValueState) (character : Char) : ValueState :=
  { state with output := state.output ++ [character] }

/-- Reads one more character of a value: a new state, the end of the value, or an error. -/
def ValueState.next (environment : Environment) (state : ValueState) (character : Char) :
    Option (ValueState ⊕ ValueState) :=
  if state.ended then
    if character = ' ' ∨ character = '\t' then some (.inl state)
    else if character = '#' then some (.inr state)
    else none
  else if state.escaped then
    if character ∈ ['\\', '\'', '"', '$', ' '] then
      some (.inl ({ state with escaped := false }.push character))
    else if character = 'n' then some (.inl ({ state with escaped := false }.push '\n'))
    else none
  else if state.strong then
    some (.inl (if character = '\'' then { state with strong := false } else state.push character))
  else if state.naming ≠ .idle then
    some (.inl (
      if Text.isAlphanumeric character then { state with name := state.name ++ [character] }
      else if state.naming = .bare then
        if character = '{' ∧ state.name.isEmpty then { state with naming := .braced }
        else if character = '$' then { state.putIn environment with naming := .bare }
        else { state.putIn environment with naming := .idle }.push character
      else if character = '}' then { state.putIn environment with naming := .idle }
      else { state with name := state.name ++ [character] }))
  else if character = '$' then some (.inl { state with naming := .bare })
  else if state.weak then
    some (.inl (
      if character = '"' then { state with weak := false }
      else if character = '\\' then { state with escaped := true }
      else state.push character))
  else if character = '\'' then some (.inl { state with strong := true })
  else if character = '"' then some (.inl { state with weak := true })
  else if character = '\\' then some (.inl { state with escaped := true })
  else if character = ' ' ∨ character = '\t' then some (.inl { state with ended := true })
  else some (.inl (state.push character))

/-- The value that a text writes from a state on. -/
def readValue? (environment : Environment) (state : ValueState) : Text → Option Text
  | [] => finished state
  | first :: rest =>
    match state.next environment first with
    | none => none
    | some (.inr state) => finished state
    | some (.inl state) => readValue? environment state rest
where
  /-- The value, unless a quote or a brace is open. -/
  finished (state : ValueState) : Option Text :=
    if state.naming = .braced ∨ state.strong ∨ state.weak then none
    else some (state.putIn environment).output

/-- Reads a key: a letter or an underscore, then also digits and points. -/
def readKey? (text : Text) : Option (Text × Text) :=
  let inKey := fun character : Char => character.isAlphanum || character == '_' || character == '.'
  match text with
  | [] => none
  | first :: _ =>
    if first.isAlpha || first == '_' then some (text.takeWhile inKey, text.dropWhile inKey)
    else none

/-- Reads a key and the equals sign; the word `export` may stand in front. -/
def readAssignment? (text : Text) : Option (Text × Text) :=
  match readKey? text with
  | none => none
  | some (key, rest) =>
    match Text.trimStart rest with
    | '=' :: value => some (key, Text.trimStart value)
    | rest =>
      if key = "export".toList then
        match readKey? rest with
        | none => none
        | some (key, rest) =>
          match Text.trimStart rest with
          | '=' :: value => some (key, Text.trimStart value)
          | _ => none
      else none

/-- What a line says: nothing, or a key with its value; `none` is an error. -/
def readLine? (environment : Environment) (line : Text) : Option (Option (Text × Text)) :=
  let line := Text.trim line
  if line.isEmpty || line.head? == some '#' then some none
  else
    match readAssignment? line with
    | none => none
    | some (key, value) =>
      if value.isEmpty || value.head? == some '#' then some (some (key, []))
      else (readValue? environment {} value).map fun value => some (key, value)

/-- The environment with the variables of the lines that it does not have.

The second component tells whether all lines could be read. -/
def applyLines (environment : Environment) : List (Option Text) → Environment × Bool
  | [] => (environment, true)
  | none :: _ => (environment, false)
  | some line :: lines =>
    match readLine? environment line with
    | none => (environment, false)
    | some none => applyLines environment lines
    | some (some (key, value)) =>
      applyLines
        (if (environment.find? key).isSome then environment
        else environment.set ⟨some key, some value⟩)
        lines

/-- The lines without the mark that may stand in front of a file. -/
def withoutMark : FileLines → FileLines
  | some ('\uFEFF' :: line) :: lines => some line :: lines
  | lines => lines

/-- The environment with the variables of a file that it does not have, and whether all of the
file could be read. -/
def apply (environment : Environment) (lines : FileLines) : Environment × Bool :=
  applyLines environment (logicalLines [] .complete (withoutMark lines))

end Phrasebook.CommandLine.DotEnv
