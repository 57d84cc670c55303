import Phrasebook.Text
import Phrasebook.Number.Binary64

/-!
# Numbers written as text

An integer is an optional sign and one or more decimal digits. A number with a fraction has
digits before or behind its point, or on both sides, and may end in an exponent; infinity
and what is no number are named, in any letter case. The whole text has to be the number:
there are no blanks around it and no marks between the digits.
-/

namespace Phrasebook.Number

/-- The sign in front of a text, true for minus, and what follows it. -/
def readSign : Text → Bool × Text
  | '-' :: rest => (true, rest)
  | '+' :: rest => (false, rest)
  | text => (false, text)

/-- The natural number written by decimal digits, of which there is at least one. -/
def readNat? (text : Text) : Option Nat :=
  if text.isEmpty || !text.all Char.isDigit then none
  else some (Nat.ofDigitChars 10 text 0)

/-- The integer written by a text, whatever its size. -/
def readInteger? (text : Text) : Option Int :=
  let (negative, digits) := readSign text
  (readNat? digits).map fun magnitude => if negative then -(magnitude : Int) else magnitude

/-- A number in figures: the sign, the digits as one natural, and the power of ten they count. -/
structure Figures where
  negative : Bool
  digits : Nat
  exponent : Int
deriving DecidableEq

/-- What a text that writes a number stands for. -/
inductive Literal where
  | figures (figures : Figures)
  | infinite (negative : Bool)
  | notANumber
deriving DecidableEq

/-- The exponent behind the figures: nothing, or a mark and an integer. -/
def readExponent? : Text → Option Int
  | [] => some 0
  | mark :: rest => if mark = 'e' ∨ mark = 'E' then readInteger? rest else none

/-- The figures of a number after its sign. -/
def readFigures? (negative : Bool) (text : Text) : Option Figures :=
  let before := text.takeWhile Char.isDigit
  let rest := text.dropWhile Char.isDigit
  let (behind, rest) :=
    match rest with
    | '.' :: others => (others.takeWhile Char.isDigit, others.dropWhile Char.isDigit)
    | _ => ([], rest)
  if before.isEmpty && behind.isEmpty then none
  else
    (readExponent? rest).map fun exponent =>
      ⟨negative, Nat.ofDigitChars 10 (before ++ behind) 0, exponent - behind.length⟩

/-- The number written by a text. -/
def readLiteral? (text : Text) : Option Literal :=
  let (negative, rest) := readSign text
  let lowered := rest.map Char.toLower
  if lowered = "inf".toList ∨ lowered = "infinity".toList then some (.infinite negative)
  else if lowered = "nan".toList then some .notANumber
  else (readFigures? negative rest).map .figures

/-- The binary64 number nearest to what a text writes. -/
def Binary64.read? (text : Text) : Option Binary64 :=
  (readLiteral? text).map fun
    | .figures ⟨negative, digits, exponent⟩ => .ofDecimal negative digits exponent
    | .infinite negative => .infinite negative
    | .notANumber => .notANumber

/-- The number of the 32-bit format nearest to what a text writes. -/
def Binary64.read32? (text : Text) : Option Binary64 :=
  (readLiteral? text).map fun
    | .figures ⟨negative, digits, exponent⟩ => .ofDecimal32 negative digits exponent
    | .infinite negative => .infinite negative
    | .notANumber => .notANumber

end Phrasebook.Number
