import Phrasebook.Text
import Phrasebook.Number.Shortest

/-!
# Numbers in words and figures

How a number is laid out as text: which magnitudes are written positionally, whether a whole
number keeps a zero behind its point, and how an exponent is marked. Three layouts are in
use: the plain one is positional throughout, the one of documents is that of JSON, and the
one of inspection tells a number of this kind from an integer.
-/

namespace Phrasebook.Number

/-- The decisions of a layout. -/
structure Layout where
  /-- Which of two equally near decimals is written. -/
  tie : Tie
  /-- The exponents of the leading digit, from the first up to but without the second, that are
      written positionally; without them every number is. -/
  positional : Option (Int × Int)
  /-- Whether a whole number is written with a zero behind a point. -/
  pointZero : Bool
  /-- Whether an exponent above zero has a sign. -/
  signedExponent : Bool
deriving DecidableEq

/-- The layout of rendered text. -/
def plain : Layout := ⟨.upward, none, false, false⟩

/-- The layout of JSON documents. -/
def document : Layout := ⟨.toEven, some (-5, 16), true, true⟩

/-- The layout of inspected values. -/
def inspection : Layout := ⟨.upward, some (-4, 16), true, false⟩

/-- An integer in decimal figures. -/
def integerText (value : Int) : Text :=
  (if value < 0 then ['-'] else []) ++ Nat.toDigits 10 value.natAbs

namespace Layout

/-- A decimal with all its places. -/
def positionalText (layout : Layout) (decimal : Decimal) : Text :=
  let figures := Nat.toDigits 10 decimal.digits
  if 0 ≤ decimal.exponent then
    figures ++ List.replicate decimal.exponent.toNat '0' ++
      (if layout.pointZero then ['.', '0'] else [])
  else
    let behind := (-decimal.exponent).toNat
    if behind < figures.length then
      figures.take (figures.length - behind) ++ '.' :: figures.drop (figures.length - behind)
    else ['0', '.'] ++ List.replicate (behind - figures.length) '0' ++ figures

/-- A decimal with its leading digit before the point and an exponent. -/
def exponentText (layout : Layout) (decimal : Decimal) : Text :=
  let figures := Nat.toDigits 10 decimal.digits
  let exponent := decimal.exponent + (figures.length - 1 : Nat)
  let mantissa :=
    match figures with
    | [] => []
    | [figure] => [figure]
    | figure :: others => figure :: '.' :: others
  mantissa ++ 'e' :: (if layout.signedExponent ∧ 0 ≤ exponent then ['+'] else []) ++
    integerText exponent

/-- A decimal in the layout. -/
def decimalText (layout : Layout) (decimal : Decimal) : Text :=
  let leading := decimal.exponent + ((Nat.toDigits 10 decimal.digits).length - 1 : Nat)
  match layout.positional with
  | none => layout.positionalText decimal
  | some (first, limit) =>
    if first ≤ leading ∧ leading < limit then layout.positionalText decimal
    else layout.exponentText decimal

/-- A binary64 number in the layout: the shortest decimal that reads back as it. -/
def text (layout : Layout) : Binary64 → Text
  | .notANumber => "NaN".toList
  | .infinite negative => (if negative then ['-'] else []) ++ "inf".toList
  | .finite negative significand exponent =>
    (if negative then ['-'] else []) ++
      (if significand = 0 then
        '0' :: (if layout.pointZero then ['.', '0'] else [])
      else layout.decimalText (shortest layout.tie significand exponent))

end Layout

end Phrasebook.Number
