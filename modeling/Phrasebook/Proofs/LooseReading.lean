import Mathlib
import Phrasebook.Proofs.Digits

/-!
# Values read from bare text

A bare text is read as a truth value exactly if it is its name, and as an integer exactly if it
writes one that 64 bits hold. A text that writes an integer beyond these is read as the nearest
number with a fraction; it does not come out as some other integer. This needs the reader of such
numbers: without a point and an exponent its figures are just the digits, and what it does not look
at closely, numbers of more than 310 digits, is beyond its format in any case.

So the text of a truth value or of an integer is read as this value again.
-/

namespace Phrasebook

namespace Number

/-- The magnitude of a natural number is its binary logarithm. -/
theorem magnitude_one {number : Nat} (positive : number ≠ 0) :
    magnitude number 1 = number.log2 := by
  have reached : ¬number < 2 ^ number.log2 := Nat.not_lt.mpr (Nat.log2_self_le positive)
  have unit : Nat.log2 1 = 0 := by decide
  simp [magnitude, scaleDown, unit, reached]

/-- A natural number is rounded to no number of a format if its logarithm is too great: rounding
never makes the exponent smaller. -/
theorem Format.round?_eq_none {format : Format} {number : Nat} (positive : number ≠ 0)
    (great : format.greatest + (format.precision - 1 : Nat) < number.log2) :
    format.round? number 1 = none := by
  have beyond : format.greatest <
      max format.least (number.log2 - (format.precision - 1 : Nat)) := by
    omega
  rw [Format.round?, if_neg positive, magnitude_one positive]
  dsimp only
  split
  · rw [if_neg (by dsimp only; omega)]
  · rw [if_neg (by dsimp only; omega)]

/-- A number has more than three binary digits for each decimal one, to be precise 205 for 62. -/
theorem le_log2_of_length_toDigits {number times : Nat} (positive : 0 < times)
    (long : 62 * times < (Nat.toDigits 10 number).length) : 205 * times ≤ number.log2 := by
  have great : 10 ^ (62 * times) ≤ number := by
    apply Nat.not_lt.mp
    intro small
    have short := (Nat.length_toDigits_le_iff (by decide) (by omega)).mpr small
    omega
  have nonzero : number ≠ 0 := (Nat.lt_of_lt_of_le (Nat.pow_pos (by decide)) great).ne'
  apply (Nat.le_log2 nonzero).mpr
  calc 2 ^ (205 * times) = (2 ^ 205) ^ times := Nat.pow_mul 2 205 times
    _ ≤ (10 ^ 62) ^ times := Nat.pow_le_pow_left (by decide) times
    _ = 10 ^ (62 * times) := (Nat.pow_mul 10 62 times).symm
    _ ≤ number := great

/-- A decimal without places behind its point is the nearest number to a natural number. That
numbers of more than 310 digits are taken for infinite without a look at their value is right, since
none of them is rounded to a number of the format. -/
theorem ofDecimal_zero {magnitude : Nat} (positive : magnitude ≠ 0) (negative : Bool) :
    Binary64.ofDecimal negative magnitude 0 = Binary64.ofFraction negative magnitude 1 := by
  have whole : magnitude * Nat.pow 10 (0 : Int).toNat = magnitude := Nat.mul_one magnitude
  have unit : Nat.pow 10 (-0 : Int).toNat = 1 := rfl
  rw [Binary64.ofDecimal, whole, unit, if_neg (by omega)]
  split
  · rename_i long
    have logarithm : 205 * 5 ≤ magnitude.log2 :=
      le_log2_of_length_toDigits (by decide) (by omega)
    have beyond : binary64.round? magnitude 1 = none :=
      Format.round?_eq_none positive (by dsimp only [binary64]; omega)
    rw [Binary64.ofFraction, beyond]
  · rfl

/-- Digits have no other letter case. -/
theorem IsDecimal.map_toLower {digits : Text} (decimal : IsDecimal digits) :
    digits.map Char.toLower = digits := by
  have unchanged : ∀ digit ∈ digits, digit.toLower = id digit := by
    intro digit member
    have codes := codes_of_isDigit (decimal.isDigit digit member)
    apply Char.toLower_eq_of_not_isUpper
    intro capital
    simp only [Char.isUpper, decide_eq_true_eq] at capital
    have letter : 65 ≤ digit.toNat := capital.1
    omega
  rw [List.map_congr_left unchanged, List.map_id]

/-- Digits are the figures of a number without places behind its point. -/
theorem IsDecimal.readFigures? {digits : Text} (decimal : IsDecimal digits) (negative : Bool) :
    Number.readFigures? negative digits = some ⟨negative, placeValue digits, 0⟩ := by
  have before : digits.takeWhile Char.isDigit = digits :=
    List.takeWhile_eq_self_iff.mpr decimal.isDigit
  have behind : digits.dropWhile Char.isDigit = [] :=
    List.dropWhile_eq_nil_iff.mpr decimal.isDigit
  rw [Number.readFigures?, before, behind]
  simp [decimal.nonempty, readExponent?, ofDigitChars_eq_placeValue]

/-- Digits behind a sign are read as the figures of a number: they are none of the names, since
each of these has an `n` in it. -/
theorem IsDecimal.readLiteral? {negative : Bool} {sign digits : Text} (decimal : IsDecimal digits)
    (signs : IsSign negative sign) :
    Number.readLiteral? (sign ++ digits) = some (.figures ⟨negative, placeValue digits, 0⟩) := by
  have unnamed {name : Text} (letter : 'n' ∈ name) : digits ≠ name := by
    rintro rfl
    exact absurd (decimal.isDigit 'n' letter) (by decide)
  have finite : ¬(digits = "inf".toList ∨ digits = "infinity".toList) := by
    rintro (infinite | infinite)
    · exact unnamed (by simp) infinite
    · exact unnamed (by simp) infinite
  have number : digits ≠ "nan".toList := unnamed (by simp)
  rw [Number.readLiteral?, readSign_append signs decimal]
  dsimp only
  rw [decimal.map_toLower, if_neg finite, if_neg number, decimal.readFigures?, Option.map_some]

/-- A text that writes an integer other than zero is read as the number nearest to it. -/
theorem Writes.read? {text : Text} {number : Int} (written : Writes text number)
    (nonzero : number ≠ 0) : Binary64.read? text = some (.ofInt number) := by
  obtain ⟨negative, sign, digits, signs, decimal, rfl, rfl⟩ := written
  have positive : placeValue digits ≠ 0 := by
    intro nothing
    apply nonzero
    cases negative <;> simp [signed, nothing]
  rw [Binary64.read?, decimal.readLiteral? signs, Option.map_some]
  dsimp only
  rw [ofDecimal_zero positive, Binary64.ofInt]
  cases negative with
  | false =>
    have above : ¬(placeValue digits : Int) < 0 := by omega
    rw [signed, if_neg (by decide), decide_eq_false above, Int.natAbs_natCast]
  | true =>
    have below : 0 < placeValue digits := Nat.pos_of_ne_zero positive
    simp [signed, below]

end Number

namespace Value

open Number

variable {text : Text}

/-- A 64-bit integer is read from a text exactly if the text writes it. -/
theorem readNumber?_eq_some_iff {value : Int64} :
    readNumber? text = some value ↔ Writes text value.toInt := by
  have least : Int64.minValue.toInt = -2 ^ 63 := by decide
  have greatest : Int64.maxValue.toInt = 2 ^ 63 - 1 := by decide
  rw [readNumber?, ← readInteger?_eq_some_iff, least, greatest]
  cases readInteger? text with
  | none => simp
  | some number =>
    dsimp only
    rw [Option.some.injEq]
    split
    · rename_i within
      have held : (Int64.ofInt number).toInt = number :=
        Int64.toInt_ofInt_of_le within.1 (by omega)
      rw [Option.some.injEq, ← Int64.toInt_inj, held]
    · rename_i outside
      have lower := value.le_toInt
      have upper := value.toInt_lt
      simp only [reduceCtorEq, false_iff]
      omega

/-- The name of a truth value writes no integer. -/
theorem readInteger?_truth (truth : Bool) : readInteger? (Value.bool truth).text = none := by
  cases truth <;> rfl

/-- The name of a truth value is read as this value. -/
theorem parseLoose_truth (truth : Bool) : parseLoose (Value.bool truth).text = .bool truth := by
  cases truth <;> rfl

/-- A text that names no truth value is read as an integer if it writes one, then as a number with
a fraction, and else is kept. -/
theorem parseLoose_of_ne (unnamed : ∀ truth, text ≠ (Value.bool truth).text) :
    parseLoose text =
      ((readNumber? text).map number).getD
        (((Binary64.read? text).map float).getD (.string text)) := by
  have notTrue : text ≠ "true".toList := unnamed true
  have notFalse : text ≠ "false".toList := unnamed false
  rw [parseLoose, if_neg notTrue, if_neg notFalse]
  cases readNumber? text with
  | none => cases Binary64.read? text <;> rfl
  | some value => rfl

/-- A text is read as a truth value exactly if it names it. -/
theorem parseLoose_eq_bool_iff {truth : Bool} :
    parseLoose text = .bool truth ↔ text = (Value.bool truth).text := by
  constructor
  · intro read
    by_cases named : ∃ other, text = (Value.bool other).text
    · obtain ⟨other, rfl⟩ := named
      rw [parseLoose_truth, Value.bool.injEq] at read
      rw [read]
    · rw [parseLoose_of_ne (not_exists.mp named)] at read
      revert read
      cases readNumber? text with
      | none => cases Binary64.read? text <;> simp
      | some value => simp
  · rintro rfl
    exact parseLoose_truth truth

/-- A text is read as an integer exactly if it writes one that 64 bits hold. -/
theorem parseLoose_eq_number_iff {value : Int64} :
    parseLoose text = .number value ↔ Writes text value.toInt := by
  rw [← readNumber?_eq_some_iff]
  by_cases named : ∃ truth, text = (Value.bool truth).text
  · obtain ⟨truth, rfl⟩ := named
    rw [parseLoose_truth, readNumber?, readInteger?_truth]
    simp
  · rw [parseLoose_of_ne (not_exists.mp named)]
    cases readNumber? text with
    | none => cases Binary64.read? text <;> simp
    | some number => simp

/-- A numeral beyond the 64-bit integers is read as the number nearest to its integer. -/
theorem parseLoose_beyond {number : Int} (written : Writes text number)
    (beyond : number < -2 ^ 63 ∨ 2 ^ 63 ≤ number) :
    parseLoose text = .float (.ofInt number) := by
  have refused : readNumber? text = none := by
    apply Option.eq_none_iff_forall_ne_some.mpr
    intro value read
    have same := written.unique (readNumber?_eq_some_iff.mp read)
    have lower := value.le_toInt
    have upper := value.toInt_lt
    omega
  have unnamed : ∀ truth, text ≠ (Value.bool truth).text := by
    rintro truth rfl
    have read := readInteger?_eq_some_iff.mpr written
    simp [readInteger?_truth] at read
  rw [parseLoose_of_ne unnamed, refused, written.read? (by omega)]
  rfl

/-- An integer is read from its own text. -/
theorem parseLoose_number (value : Int64) :
    parseLoose (Value.number value).text = .number value :=
  parseLoose_eq_number_iff.mpr (numeral_integerText value.toInt).writes

/-- A bare text is read as a truth value exactly if it is its name, and as an integer exactly if it
is a sign or none and one or more decimal digits that stand for an integer of 64 bits. This is the
integer to which counting in words comes; a numeral that stands for an integer beyond these is read
as the number nearest to it. The texts of truth values and integers are read as these again.

Proof: what each reader accepts is what its grammar describes, a text writes one integer at most,
and an integer is written by its text. -/
theorem loosely_read_iff :
    (∀ text, (parseLoose text = .bool true ↔ text = "true".toList) ∧
      (parseLoose text = .bool false ↔ text = "false".toList)) ∧
    (∀ text (number : Int),
      (∃ value : Int64, parseLoose text = .number value ∧ value.toInt = number) ↔
        Writes text number ∧ -2 ^ 63 ≤ number ∧ number < 2 ^ 63) ∧
    (∀ text value, parseLoose text = .number value ↔ countInWords? text = some value) ∧
    (∀ text number, Writes text number → number < -2 ^ 63 ∨ 2 ^ 63 ≤ number →
      parseLoose text = .float (.ofInt number)) ∧
    (∀ truth, parseLoose (Value.bool truth).text = .bool truth) ∧
    ∀ value, parseLoose (Value.number value).text = .number value := by
  refine ⟨fun text => ⟨parseLoose_eq_bool_iff, parseLoose_eq_bool_iff⟩, fun text number => ?_,
    fun text value => ?_, fun text number => parseLoose_beyond, parseLoose_truth,
    parseLoose_number⟩
  · constructor
    · rintro ⟨value, read, rfl⟩
      exact ⟨parseLoose_eq_number_iff.mp read, value.le_toInt, value.toInt_lt⟩
    · rintro ⟨written, lower, upper⟩
      obtain ⟨value, rfl⟩ := exists_word number lower upper
      exact ⟨value, parseLoose_eq_number_iff.mpr written, rfl⟩
  · rw [parseLoose_eq_number_iff, countInWords?_eq_some_iff]

/-- At both ends of the range zeros in front and a plus sign change nothing, and the integer behind
each end is read as a number with a fraction. -/
theorem loosely_read_iff_ends :
    Writes "-00009223372036854775808".toList (-9223372036854775808) ∧
      parseLoose "-00009223372036854775808".toList = .number (-9223372036854775808) ∧
      Writes "+9223372036854775807".toList 9223372036854775807 ∧
      parseLoose "+9223372036854775807".toList = .number 9223372036854775807 ∧
      Writes "9223372036854775808".toList 9223372036854775808 ∧
      parseLoose "9223372036854775808".toList = .float (.ofInt 9223372036854775808) ∧
      Writes "-9223372036854775809".toList (-9223372036854775809) ∧
      parseLoose "-9223372036854775809".toList = .float (.ofInt (-9223372036854775809)) := by
  obtain ⟨_, _, counted, beyond, _, _⟩ := loosely_read_iff
  have least : Writes "-00009223372036854775808".toList (-9223372036854775808) :=
    readInteger?_eq_some_iff.mp (by rfl)
  have greatest : Writes "+9223372036854775807".toList 9223372036854775807 :=
    readInteger?_eq_some_iff.mp (by rfl)
  have above : Writes "9223372036854775808".toList 9223372036854775808 :=
    readInteger?_eq_some_iff.mp (by rfl)
  have below : Writes "-9223372036854775809".toList (-9223372036854775809) :=
    readInteger?_eq_some_iff.mp (by rfl)
  exact ⟨least, (counted _ _).mpr (by rfl), greatest, (counted _ _).mpr (by rfl), above,
    beyond _ _ above (by decide), below, beyond _ _ below (by decide)⟩

end Value

end Phrasebook
