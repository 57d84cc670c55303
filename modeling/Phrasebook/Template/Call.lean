import Phrasebook.Text

/-!
# Calls

A call is written as a name and arguments, each introduced by a colon. An argument is a
reference to a variable in braces, a quoted string that may hold references, or nothing.
The parts of a call keep their text exactly, so that its written form can be given back:
an escape inside a string is a piece of its own and keeps its backslash.
-/

namespace Phrasebook.Template

/-- A part of a quoted argument. -/
inductive Piece where
  /-- Text as it stands, or a backslash with the character after it. -/
  | text (content : Text)
  /-- A reference to a variable. -/
  | reference (name : Text)
deriving DecidableEq

/-- An argument of a call. -/
inductive Argument where
  /-- A reference to a variable. -/
  | reference (name : Text)
  /-- A quoted string. -/
  | quoted (pieces : List Piece)
  /-- Nothing between two colons. -/
  | empty
deriving DecidableEq

/-- An escaped delimiter directly after a call: it belongs to the text, not to the call. -/
inductive Trailing where
  | colon
  | quote
deriving DecidableEq

/-- A call and the bytes it takes up, from `start` up to but without `stop`. -/
structure Call where
  name : Text
  arguments : List Argument
  start : Nat
  stop : Nat
  trailing : Option Trailing
deriving DecidableEq

/-- The written form of a piece. -/
def Piece.written : Piece → Text
  | .text content => content
  | .reference name => '{' :: name ++ ['}']

/-- The written form of an argument. -/
def Argument.written : Argument → Text
  | .reference name => '{' :: name ++ ['}']
  | .quoted pieces => '"' :: pieces.flatMap Piece.written ++ ['"']
  | .empty => []

/-- The written form of a call: its name and its arguments, with colons between. -/
def Call.written (call : Call) : Text :=
  call.name ++ ':' :: Text.join [':'] (call.arguments.map Argument.written)

/-- The escaped delimiter at the start of a text. -/
def Trailing.of? : Text → Option Trailing
  | '\\' :: ':' :: _ => some .colon
  | '\\' :: '"' :: _ => some .quote
  | _ => none

/-- Why a text at an offset is no call. -/
inductive Fault where
  /-- The string that opens at the offset is not closed. -/
  | unterminatedString (function : Text) (offset : Nat)
  /-- A reference in the argument that opens at the offset is not closed. -/
  | unterminatedVariable (function : Text) (offset : Nat)
  /-- No colon follows the offset. -/
  | missingSeparator (offset : Nat)
deriving DecidableEq

namespace Fault

/-- The byte offset at fault. -/
def offset : Fault → Nat
  | .unterminatedString _ offset => offset
  | .unterminatedVariable _ offset => offset
  | .missingSeparator offset => offset

/-- The same fault at another offset. -/
def moveTo (offset : Nat) : Fault → Fault
  | .unterminatedString function _ => .unterminatedString function offset
  | .unterminatedVariable function _ => .unterminatedVariable function offset
  | .missingSeparator _ => .missingSeparator offset

/-- The fault in words. -/
def message : Fault → Text
  | .unterminatedString function offset =>
    "unterminated string argument in call to '".toList ++ function ++
      "' at offset ".toList ++ Nat.toDigits 10 offset
  | .unterminatedVariable function offset =>
    "unterminated variable reference in call to '".toList ++ function ++
      "' at offset ".toList ++ Nat.toDigits 10 offset
  | .missingSeparator offset =>
    "missing argument separator after function name at offset ".toList ++ Nat.toDigits 10 offset

end Fault

end Phrasebook.Template
