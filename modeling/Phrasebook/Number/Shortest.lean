import Phrasebook.Number.Binary64

/-!
# The shortest decimal of a number

A decimal reads back as a number when it lies among the reals that round to that number:
between the points half-way to the two neighbours, ends included when the significand is
even. Of the decimals that read back, those with the fewest digits are preferred, and of
these the nearest. Grids of one, two, three and more digits are tried in turn, and on each
only the two points around the number can be the answer.
-/

namespace Phrasebook.Number

/-- Which of two equally near decimals is taken. -/
inductive Tie where
  | upward
  | toEven
deriving DecidableEq

/-- The decimal `digits * 10^exponent`. -/
structure Decimal where
  digits : Nat
  exponent : Int
deriving DecidableEq

namespace Decimal

/-- The numerator of a decimal over a denominator `10^(-exponent)`. -/
def numerator (decimal : Decimal) : Nat := decimal.digits * Nat.pow 10 decimal.exponent.toNat

/-- The denominator of a decimal. -/
def denominator (decimal : Decimal) : Nat := Nat.pow 10 (-decimal.exponent).toNat

/-- The same decimal without zeros at its end. -/
def trimmed (decimal : Decimal) : Decimal :=
  go decimal.digits.log2 decimal
where
  /-- Takes away at most as many zeros as the bound allows. -/
  go : Nat → Decimal → Decimal
    | 0, decimal => decimal
    | bound + 1, ⟨digits, exponent⟩ =>
      if digits % 10 = 0 ∧ digits ≠ 0 then go bound ⟨digits / 10, exponent + 1⟩
      else ⟨digits, exponent⟩

end Decimal

/-- The reals that round to a positive binary64 number, as multiples of one unit.

The unit is a quarter of a step of the number: its value is `4 * significand` units. -/
structure Neighbourhood where
  low : Nat
  high : Nat
  closed : Bool
  /-- One unit is `unitNumerator / unitDenominator`. -/
  unitNumerator : Nat
  unitDenominator : Nat

/-- The reals that round to `significand * 2^exponent`.

Below a power of two the neighbour is only half a step away. -/
def neighbourhood (significand : Nat) (exponent : Int) : Neighbourhood where
  low := 4 * significand -
    (if significand = Nat.pow 2 (binary64.precision - 1) ∧ exponent ≠ binary64.least then 1 else 2)
  high := 4 * significand + 2
  closed := significand % 2 = 0
  unitNumerator := Nat.pow 2 exponent.toNat
  unitDenominator := 4 * Nat.pow 2 (-exponent).toNat

/-- Whether a decimal lies in a neighbourhood. -/
def Neighbourhood.holds (around : Neighbourhood) (decimal : Decimal) : Bool :=
  let point := decimal.numerator * around.unitDenominator
  let unit := around.unitNumerator * decimal.denominator
  if around.closed then around.low * unit ≤ point ∧ point ≤ around.high * unit
  else around.low * unit < point ∧ point < around.high * unit

/-- A bound on the decimal places of `significand * 2^exponent` before its point. -/
def places (significand : Nat) (exponent : Int) : Int :=
  let numerator := significand * Nat.pow 2 exponent.toNat
  let denominator := Nat.pow 2 (-exponent).toNat
  if denominator ≤ numerator then ((Nat.toDigits 10 (numerator / denominator)).length : Int)
  else 2 - ((Nat.toDigits 10 (denominator / numerator)).length : Int)

/-- The nearer of the two points around a number on the grid `10^step`, if one reads back. -/
def onGrid? (tie : Tie) (significand : Nat) (exponent step : Int) : Option Decimal :=
  let numerator := significand * Nat.pow 2 exponent.toNat * Nat.pow 10 (-step).toNat
  let denominator := Nat.pow 2 (-exponent).toNat * Nat.pow 10 step.toNat
  let below := numerator / denominator
  let remainder := numerator % denominator
  let around := neighbourhood significand exponent
  let lower : Decimal := ⟨below, step⟩
  let upper : Decimal := ⟨below + 1, step⟩
  match around.holds lower, around.holds upper with
  | true, true =>
    if 2 * remainder < denominator then some lower
    else if denominator < 2 * remainder then some upper
    else if tie = .toEven ∧ below % 2 = 0 then some lower
    else some upper
  | true, false => some lower
  | false, true => some upper
  | false, false => none

/-- The shortest decimal that reads back as the positive number `significand * 2^exponent`.

Seventeen digits suffice; beyond them the exact value would be given. -/
def shortest (tie : Tie) (significand : Nat) (exponent : Int) : Decimal :=
  let whole := places significand exponent
  let found := (List.range 18).findSome? fun count =>
    onGrid? tie significand exponent (whole - (count + 1 : Nat))
  match found with
  | some decimal => decimal.trimmed
  | none =>
    Decimal.trimmed
      ⟨significand * Nat.pow 2 exponent.toNat * Nat.pow 5 (-exponent).toNat, min exponent 0⟩

end Phrasebook.Number
