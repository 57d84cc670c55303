import Phrasebook.Text.Alphanumeric

/-!
# Patterns

A pattern stands for the texts that match it: characters for themselves, a point for any
character, classes in brackets, alternatives between bars, groups in parentheses, and marks of
repetition behind what they repeat. A backslash gives a mark to a character or takes one away.
Here it is only decided whether a text is a pattern.

A pattern is read in two steps. First what belongs to a backslash is put together, then a state
goes over the symbols from the start to the end. Counts of repetitions in braces and the
boundaries of words are no part of patterns.
-/

namespace Phrasebook.CommandLine

/-- A character of a pattern, or what a backslash and the characters behind it stand for. -/
inductive Symbol where
  /-- A character that may have a meaning of its own. -/
  | plain (character : Char)
  /-- A character that stands for itself. -/
  | literal (character : Char)
  /-- A set of characters. -/
  | set
  /-- The start or the end of the text. -/
  | edge
deriving DecidableEq

/-- How far what belongs to a backslash has been read. -/
inductive Escaping where
  /-- Behind no backslash. -/
  | outside
  /-- Behind the backslash. -/
  | opened
  /-- Behind the mark for a property of characters. -/
  | property
  /-- Within the digits of the number of a character: how many are missing, and the number. -/
  | digits (missing : Nat) (number : Nat)

/-- The value of a hexadecimal digit. -/
def hexDigit? (character : Char) : Option Nat :=
  if character.isDigit then some (character.toNat - '0'.toNat)
  else if 'a' ≤ character ∧ character ≤ 'f' then some (character.toNat - 'a'.toNat + 10)
  else if 'A' ≤ character ∧ character ≤ 'F' then some (character.toNat - 'A'.toNat + 10)
  else none

/-- The control characters that a backslash and a letter stand for. -/
def controls : List (Char × Char) :=
  [('a', '\x07'), ('f', '\x0c'), ('n', '\n'), ('r', '\r'), ('t', '\t'), ('v', '\x0b')]

/-- The symbol of a backslash and one character, which is no letter that begins more.

Letters and digits without a meaning, angle brackets and characters beyond ASCII have none. -/
def escapedSymbol? (character : Char) : Option Symbol :=
  match controls.lookup character with
  | some control => some (.literal control)
  | none =>
    if "dswDSW".toList.contains character then some .set
    else if character = 'A' ∨ character = 'z' then some .edge
    else if 0x80 ≤ character.toNat ∨ character.isAlphanum ∨ character = '<' ∨ character = '>' then
      none
    else some (.literal character)

/-- The symbols of a pattern, if each backslash has what belongs to it behind it. -/
def symbols? : Escaping → Text → Option (List Symbol)
  | .outside, [] => some []
  | .opened, [] | .property, [] | .digits _ _, [] => none
  | .outside, character :: rest =>
    if character = '\\' then symbols? .opened rest
    else (symbols? .outside rest).map (.plain character :: ·)
  | .opened, character :: rest =>
    if character = 'p' ∨ character = 'P' then symbols? .property rest
    else if character = 'x' then symbols? (.digits 2 0) rest
    else if character = 'u' then symbols? (.digits 4 0) rest
    else if character = 'U' then symbols? (.digits 8 0) rest
    else
      match escapedSymbol? character with
      | some symbol => (symbols? .outside rest).map (symbol :: ·)
      | none => none
  | .property, character :: rest =>
    if "LMNPSZClmnpszc".toList.contains character then (symbols? .outside rest).map (.set :: ·)
    else none
  | .digits missing number, character :: rest =>
    match hexDigit? character with
    | none => none
    | some digit =>
      let number := 16 * number + digit
      if 1 < missing then symbols? (.digits (missing - 1) number) rest
      else if number.isValidChar then
        (symbols? .outside rest).map (.literal (Char.ofNat number) :: ·)
      else none

/-- Where in a pattern a symbol stands. -/
inductive Place where
  /-- Outside of classes, perhaps behind something that can be repeated. -/
  | outside (repeatable : Bool)
  /-- Behind an opening parenthesis. -/
  | group
  /-- Behind an opening parenthesis and a question mark. -/
  | option
  /-- Behind the letter in front of the name of a group. -/
  | nameMark
  /-- In the name of a group, the last character first. -/
  | name (seen : Text)
  /-- Among the letters of settings, the last first. -/
  | settings (seen : Text)
  /-- At the start of a class, which stands in a number of others. -/
  | classStart (outer : Nat) (inverted dashed : Bool)
  /-- In a class where a member can begin. -/
  | inClass (outer : Nat)
  /-- In a class behind a member, which is known if it is a single character. -/
  | member (outer : Nat) (character : Option Char)
  /-- In a class behind the dash of a range. -/
  | range (outer : Nat) (first : Option Char)
  /-- In a class behind the first of two equal marks for an operation. -/
  | operation (outer : Nat) (mark : Char)

/-- What has been seen of a pattern. -/
structure PatternState where
  place : Place := .outside false
  /-- The number of groups that are open. -/
  groups : Nat := 0
  names : List Text := []

namespace PatternState

/-- The state at another place. -/
def moved (state : PatternState) (place : Place) : PatternState :=
  { state with place := place }

/-- The state behind a symbol outside of classes. -/
def stepOutside (state : PatternState) (repeatable : Bool) : Symbol → Option PatternState
  | .plain '(' => some { state with place := .group, groups := state.groups + 1 }
  | .plain ')' =>
    if state.groups = 0 then none
    else some { state with place := .outside true, groups := state.groups - 1 }
  | .plain '[' => some (state.moved (.classStart 0 false false))
  | .plain '|' => some (state.moved (.outside false))
  | .plain '?' | .plain '*' | .plain '+' =>
    if repeatable then some (state.moved (.outside true)) else none
  | .plain '\x7b' => none
  | _ => some (state.moved (.outside true))

/-- The state behind a symbol of the name of a group. -/
def stepName (state : PatternState) (seen : Text) : Symbol → Option PatternState
  | .plain '>' =>
    if seen.isEmpty || state.names.contains seen then none
    else some { state with place := .outside false, names := seen :: state.names }
  | .plain character =>
    let fits :=
      if seen.isEmpty then
        character == '_' || (Text.isAlphanumeric character && !character.isDigit)
      else "_.[]".toList.contains character || Text.isAlphanumeric character
    if fits then some (state.moved (.name (character :: seen))) else none
  | _ => none

/-- The state behind a symbol of settings, which are for a group or for what follows. -/
def stepSettings (state : PatternState) (seen : Text) : Symbol → Option PatternState
  | .plain ':' => if seen.head? = some '-' then none else some (state.moved (.outside false))
  | .plain ')' =>
    if seen.isEmpty ∨ seen.head? = some '-' then none
    else some { state with place := .outside false, groups := state.groups - 1 }
  | .plain character =>
    if "imsUuRx-".toList.contains character && !seen.contains character then
      some (state.moved (.settings (character :: seen)))
    else none
  | _ => none

/-- The state behind a symbol in a class.

Whether a dash makes a range is decided by the symbol behind it. -/
def stepClass (state : PatternState) (outer : Nat) (next : Option Symbol) :
    Symbol → Option PatternState
  | .plain ']' =>
    match outer with
    | 0 => some (state.moved (.outside true))
    | outer + 1 => some (state.moved (.inClass outer))
  | .plain '[' => some (state.moved (.classStart (outer + 1) false false))
  | .plain character =>
    if "&-~".toList.contains character && next == some (.plain character) then
      some (state.moved (.operation outer character))
    else some (state.moved (.member outer (some character)))
  | .literal character => some (state.moved (.member outer (some character)))
  | .set => some (state.moved (.member outer none))
  | .edge => none

/-- The state behind a symbol, if a pattern can go on with it. -/
def step? (state : PatternState) (symbol : Symbol) (next : Option Symbol) : Option PatternState :=
  match state.place with
  | .outside repeatable => state.stepOutside repeatable symbol
  | .group =>
    if symbol = .plain '?' then some (state.moved .option) else state.stepOutside false symbol
  | .option =>
    if symbol = .plain 'P' then some (state.moved .nameMark)
    else if symbol = .plain '<' then some (state.moved (.name []))
    else state.stepSettings [] symbol
  | .nameMark => if symbol = .plain '<' then some (state.moved (.name [])) else none
  | .name seen => state.stepName seen symbol
  | .settings seen => state.stepSettings seen symbol
  | .classStart outer inverted dashed =>
    if symbol = .plain '^' ∧ ¬inverted ∧ ¬dashed then
      some (state.moved (.classStart outer true false))
    else if symbol = .plain '-' then some (state.moved (.classStart outer inverted true))
    else if symbol = .plain ']' ∧ ¬dashed then some (state.moved (.inClass outer))
    else state.stepClass outer next symbol
  | .inClass outer => state.stepClass outer next symbol
  | .member outer character =>
    if symbol = .plain '-' ∧ next ≠ some (.plain ']') ∧ next ≠ some (.plain '-') then
      some (state.moved (.range outer character))
    else state.stepClass outer next symbol
  | .range outer first =>
    match symbol with
    | .plain last | .literal last =>
      if first.any (· ≤ last) then some (state.moved (.inClass outer)) else none
    | _ => none
  | .operation outer _ => some (state.moved (.inClass outer))

/-- Whether a pattern can go on with some symbols to its end. -/
def accepts : PatternState → List Symbol → Bool
  | state, [] =>
    match state.place with
    | .outside _ => state.groups == 0
    | _ => false
  | state, symbol :: rest =>
    match state.step? symbol rest.head? with
    | some state => accepts state rest
    | none => false

end PatternState

/-- Whether a text is a pattern. -/
def isPattern (text : Text) : Bool :=
  (symbols? .outside text).any fun symbols => PatternState.accepts {} symbols

end Phrasebook.CommandLine
