import Phrasebook.Number.Rounding

/-!
# Binary64 numbers

A binary64 number is finite, infinite or not a number. A finite one is a sign, a
significand and an exponent, in the one form that rounding to the format gives: so zero has
two values, one for each sign, and no other number has two. Equality in the sense of
numbers takes the zeros for one and finds that what is no number equals nothing.
-/

namespace Phrasebook.Number

/-- A binary64 number; a finite one is `significand * 2^exponent` under its sign. -/
inductive Binary64 where
  | finite (negative : Bool) (significand : Nat) (exponent : Int)
  | infinite (negative : Bool)
  | notANumber
deriving DecidableEq

namespace Binary64

/-- The number nearest to a fraction under a sign, infinite if it is too great. -/
def ofFraction (negative : Bool) (numerator denominator : Nat) : Binary64 :=
  match binary64.round? numerator denominator with
  | some (significand, exponent) => .finite negative significand exponent
  | none => .infinite negative

/-- The number nearest to an integer. -/
def ofInt (value : Int) : Binary64 :=
  ofFraction (decide (value < 0)) value.natAbs 1

/-- The number nearest to `significand * 10^exponent` under a sign.

The exponent is looked at before any power is formed: with these digits, a number of more
than 310 places is infinite and one that begins after 400 zeros is zero. -/
def ofDecimal (negative : Bool) (significand : Nat) (exponent : Int) : Binary64 :=
  let places : Int := (Nat.toDigits 10 significand).length + exponent
  if significand = 0 ∨ places < -400 then .finite negative 0 binary64.least
  else if 310 < places then .infinite negative
  else ofFraction negative (significand * Nat.pow 10 exponent.toNat) (Nat.pow 10 (-exponent).toNat)

/-- A number of the 32-bit format, nearest to a decimal, which binary64 holds exactly. -/
def ofDecimal32 (negative : Bool) (significand : Nat) (exponent : Int) : Binary64 :=
  let places : Int := (Nat.toDigits 10 significand).length + exponent
  if significand = 0 ∨ places < -400 then .finite negative 0 binary64.least
  else if 310 < places then .infinite negative
  else
    match binary32.round? (significand * Nat.pow 10 exponent.toNat)
        (Nat.pow 10 (-exponent).toNat) with
    | some (significand, exponent) =>
      ofFraction negative (significand * Nat.pow 2 exponent.toNat) (Nat.pow 2 (-exponent).toNat)
    | none => .infinite negative

/-- The number with the other sign. -/
def negate : Binary64 → Binary64
  | .finite negative significand exponent => .finite (!negative) significand exponent
  | .infinite negative => .infinite (!negative)
  | .notANumber => .notANumber

/-- Whether two numbers are equal as numbers. -/
def sameNumber : Binary64 → Binary64 → Bool
  | .finite negative significand exponent, .finite negative' significand' exponent' =>
    (significand == 0 && significand' == 0) ||
      (negative == negative' && significand == significand' && exponent == exponent')
  | .infinite negative, .infinite negative' => negative == negative'
  | _, _ => false

/-- The number one. -/
def one : Binary64 := ofInt 1

end Binary64

end Phrasebook.Number
