import Phrasebook.Number.Literal
import Phrasebook.Value

/-!
# Numbers in JSON

A JSON number is an integer if it is written without point and exponent, fits 64 bits and is
not minus zero. Any other number becomes a binary64 number by a short rule instead of exact
rounding: of its digits, as many leading ones as a 64-bit word holds are rounded to binary64,
and the result is multiplied or divided once by a rounded power of ten. Only where the power
is beyond the format is the division done in steps. A number too great for the format is
malformed.
-/

namespace Phrasebook.Json

open Number

/-- Why a text is not the document that is asked for. -/
inductive Fault where
  /-- The text breaks a rule of JSON. -/
  | malformed
  /-- The text ends too early. -/
  | truncated
  /-- The document is of another kind. -/
  | mismatched
deriving DecidableEq

/-- The significand of a finite number with its exponent taken to the other factors. -/
def scaled (negative : Bool) (numerator denominator : Nat) (exponent : Int) : Binary64 :=
  .ofFraction negative (numerator * Nat.pow 2 exponent.toNat)
    (denominator * Nat.pow 2 (-exponent).toNat)

/-- The rounded product of two numbers that are no infinities. -/
def product : Binary64 → Binary64 → Binary64
  | .finite negative significand exponent, .finite negative' significand' exponent' =>
    scaled (negative != negative') (significand * significand') 1 (exponent + exponent')
  | _, _ => .notANumber

/-- The rounded quotient of two numbers that are no infinities, the second one not zero. -/
def quotient : Binary64 → Binary64 → Binary64
  | .finite negative significand exponent, .finite negative' significand' exponent' =>
    scaled (negative != negative') significand significand' (exponent - exponent')
  | _, _ => .notANumber

/-- The rounded power of ten. -/
def powerOfTen (exponent : Nat) : Binary64 :=
  .ofFraction false (Nat.pow 10 exponent) 1

/-- The greatest power of ten in the format. -/
def greatestPower : Nat := 308

/-- Whether a number is zero. -/
def isZero : Binary64 → Bool
  | .finite _ significand _ => significand == 0
  | _ => false

/-- Divides by powers of ten until the exponent is used up or nothing is left. -/
def shrink (value : Binary64) (exponent : Nat) : Binary64 :=
  if exponent ≤ greatestPower then quotient value (powerOfTen exponent)
  else if isZero value then value
  else shrink (quotient value (powerOfTen greatestPower)) (exponent - greatestPower)
termination_by exponent
decreasing_by
  simp only [greatestPower] at *
  omega

/-- The number `significand * 10^exponent` by the short rule. -/
def assemble (negative : Bool) (significand : Nat) (exponent : Int) : Except Fault Binary64 :=
  let whole := Binary64.ofInt significand
  let magnitude :=
    if exponent < 0 then shrink whole exponent.natAbs
    else if exponent.toNat ≤ greatestPower then product whole (powerOfTen exponent.toNat)
    else if significand = 0 then whole
    else .infinite false
  match magnitude with
  | .infinite _ => .error .malformed
  | _ => .ok (if negative then magnitude.negate else magnitude)

/-- Appends digits to a natural as long as it fits a 64-bit word; returns the digits left over. -/
def gather (significand : Nat) : Text → Nat × Text
  | [] => (significand, [])
  | digit :: rest =>
    let next := 10 * significand + (digit.toNat - '0'.toNat)
    if next < Nat.pow 2 64 then gather next rest else (significand, digit :: rest)

/-- A number in its written parts: the digits before and behind the point and the exponent. -/
structure Written where
  whole : Text
  fraction : Option Text
  exponent : Option (Bool × Text)
deriving DecidableEq

/-- The exponents that fit a 32-bit word. -/
def greatestExponent : Nat := Nat.pow 2 31 - 1

/-- The value of a written number. -/
def Written.value (written : Written) (negative : Bool) : Except Fault Value :=
  let (significand, unused) := gather 0 written.whole
  match written.fraction, written.exponent, unused with
  | none, none, [] =>
    if negative then
      if 0 < significand ∧ significand ≤ Nat.pow 2 63 then .ok (.number (Int64.ofInt (-significand)))
      else .ok (.float (Binary64.ofInt significand).negate)
    else if significand < Nat.pow 2 63 then .ok (.number (Int64.ofNat significand))
    else .ok (.float (Binary64.ofInt significand))
  | fraction, exponent, unused =>
    let behind := fraction.getD []
    let (significand, ignored) := gather significand behind
    let shift : Int := unused.length - (behind.length - ignored.length : Nat)
    let (small, digits) := exponent.getD (false, [])
    let power := Nat.ofDigitChars 10 digits 0
    if greatestExponent < power then
      if significand = 0 ∨ small then
        .ok (.float (.finite negative 0 binary64.least))
      else .error .malformed
    else
      let power : Int := if small then -(power : Int) else power
      (assemble negative significand (shift + power)).map .float

/-- The digits at the start of a text, of which there is at least one. -/
def readDigits (text : Text) : Except Fault (Text × Text) :=
  match text with
  | [] => .error .truncated
  | first :: _ =>
    if first.isDigit then .ok (text.takeWhile Char.isDigit, text.dropWhile Char.isDigit)
    else .error .malformed

/-- The digits before the point: no zero stands in front of another digit. -/
def readWhole (text : Text) : Except Fault (Text × Text) :=
  match readDigits text with
  | .error fault => .error fault
  | .ok ('0' :: _ :: _, _) => .error .malformed
  | .ok parts => .ok parts

/-- The point and the digits behind it, if there is a point. -/
def readFraction (text : Text) : Except Fault (Option Text × Text) :=
  match text with
  | '.' :: rest => (readDigits rest).map fun (digits, after) => (some digits, after)
  | _ => .ok (none, text)

/-- The exponent, if there is one: whether it is below zero, and its digits. -/
def readExponent (text : Text) : Except Fault (Option (Bool × Text) × Text) :=
  match text with
  | mark :: rest =>
    if mark = 'e' ∨ mark = 'E' then
      let (negative, digits) := readSign rest
      (readDigits digits).map fun (digits, after) => (some (negative, digits), after)
    else .ok (none, text)
  | [] => .ok (none, [])

/-- Reads a number after its sign. -/
def readNumber (negative : Bool) (text : Text) : Except Fault (Value × Text) := do
  let (whole, rest) ← readWhole text
  let (fraction, rest) ← readFraction rest
  let (exponent, rest) ← readExponent rest
  let value ← (Written.mk whole fraction exponent).value negative
  pure (value, rest)

end Phrasebook.Json
