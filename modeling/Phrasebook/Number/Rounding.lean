/-!
# Rounding to a binary format

A binary format holds the numbers `m * 2^e` with a bounded significand `m` and a bounded
exponent `e`. A fraction of naturals is rounded to the nearest number of the format, and a
fraction half-way between two of them to the one with the even significand. All arithmetic
is exact; nothing here depends on the arithmetic of the machine.
-/

namespace Phrasebook.Number

/-- A binary format: bits of a significand, and the least and the greatest exponent. -/
structure Format where
  precision : Nat
  least : Int
  greatest : Int
deriving DecidableEq

/-- The format of 64 bits. -/
def binary64 : Format := ⟨53, -1074, 971⟩

/-- The format of 32 bits. -/
def binary32 : Format := ⟨24, -149, 104⟩

/-- The nearest natural to a fraction; half-way between two naturals the even one. -/
def roundQuotient (numerator denominator : Nat) : Nat :=
  let quotient := numerator / denominator
  let remainder := numerator % denominator
  if denominator < 2 * remainder ∨ (2 * remainder = denominator ∧ quotient % 2 = 1) then
    quotient + 1
  else quotient

/-- The fraction `numerator / denominator` divided by a power of two, as a fraction. -/
def scaleDown (numerator denominator : Nat) (exponent : Int) : Nat × Nat :=
  (numerator * Nat.pow 2 (-exponent).toNat, denominator * Nat.pow 2 exponent.toNat)

/-- The exponent of the greatest power of two that a positive fraction reaches. -/
def magnitude (numerator denominator : Nat) : Int :=
  let guess : Int := (numerator.log2 : Int) - denominator.log2
  let (scaled, unit) := scaleDown numerator denominator guess
  if scaled < unit then guess - 1 else guess

/-- The significand and exponent nearest to a fraction, if the format reaches that far. -/
def Format.round? (format : Format) (numerator denominator : Nat) : Option (Nat × Int) :=
  if numerator = 0 then some (0, format.least)
  else
    let exponent :=
      max format.least (magnitude numerator denominator - (format.precision - 1 : Nat))
    let (scaled, unit) := scaleDown numerator denominator exponent
    let significand := roundQuotient scaled unit
    let (significand, exponent) :=
      if significand = Nat.pow 2 format.precision then
        (Nat.pow 2 (format.precision - 1), exponent + 1)
      else (significand, exponent)
    if exponent ≤ format.greatest then some (significand, exponent) else none

end Phrasebook.Number
