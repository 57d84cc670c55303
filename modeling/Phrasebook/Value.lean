import Phrasebook.Number.Layout
import Phrasebook.Number.Literal

/-!
# Values

A variable of a template holds a truth value, a signed 64-bit integer, a binary64 number or
a text. Each has one text, which is what a template shows. Values that arrive as bare text
are read loosely: as the most special kind that the whole text writes.
-/

namespace Phrasebook

open Number

/-- What a variable can hold. -/
inductive Value where
  | bool (truth : Bool)
  | number (value : Int64)
  | float (value : Binary64)
  | string (content : Text)
deriving DecidableEq

namespace Value

/-- A 64-bit word without a sign is held by its bits: from 2^63 on it counts as negative. -/
def ofUInt64 (word : UInt64) : Value := .number word.toInt64

/-- A 32-bit word without a sign. -/
def ofUInt32 (word : UInt32) : Value := .number (Int64.ofNat word.toNat)

/-- A 32-bit integer. -/
def ofInt32 (value : Int32) : Value := .number value.toInt64

/-- The text of a value in a template. -/
def text : Value → Text
  | .bool true => "true".toList
  | .bool false => "false".toList
  | .number value => integerText value.toInt
  | .float value => plain.text value
  | .string content => content

/-- The integer of an integer. -/
def asNumber? : Value → Option Int64
  | .number value => some value
  | _ => none

/-- The number of a number of either kind, an integer being rounded if need be. -/
def asFloat? : Value → Option Binary64
  | .number value => some (Binary64.ofInt value.toInt)
  | .float value => some value
  | _ => none

/-- The truth of a truth value. -/
def asBool? : Value → Option Bool
  | .bool truth => some truth
  | _ => none

/-- The content of a text. -/
def asString? : Value → Option Text
  | .string content => some content
  | _ => none

/-- Whether two values are of one kind and equal in it, numbers as numbers. -/
def same : Value → Value → Bool
  | .bool truth, .bool truth' => truth == truth'
  | .number value, .number value' => value == value'
  | .float value, .float value' => value.sameNumber value'
  | .string content, .string content' => content == content'
  | _, _ => false

/-- The 64-bit integer that a text writes. -/
def readNumber? (text : Text) : Option Int64 :=
  match readInteger? text with
  | some value => if Int64.minValue.toInt ≤ value ∧ value ≤ Int64.maxValue.toInt then some (Int64.ofInt value) else none
  | none => none

/-- Reads a bare text: a truth value, else an integer, else a number, else itself. -/
def parseLoose (text : Text) : Value :=
  if text = "true".toList then .bool true
  else if text = "false".toList then .bool false
  else
    match readNumber? text with
    | some value => .number value
    | none =>
      match Binary64.read? text with
      | some value => .float value
      | none => .string text

end Value

end Phrasebook
