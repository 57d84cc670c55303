import Mathlib
import Phrasebook.Proofs.Numerals

/-!
# Integers written in digits

A text writes an integer if it consists of a sign, which may be missing, and of decimal digits, of
which there is at least one. What the digits stand for is told by their places, whatever their
number; zeros in front change nothing. The readers accept exactly these texts and return what they
write.

A machine that goes through the digits has only words of 64 bits to count in, and has to notice
where a word overflows. It comes to the same integer if a word holds it, and else to none: each
digit leads further away from zero, so once the range is left no digit leads back into it. Below
zero the digits are taken away instead of added, because the range reaches one further there than
above.
-/

namespace Phrasebook.Number

/-- One or more decimal digits and nothing else. -/
structure IsDecimal (digits : Text) : Prop where
  nonempty : digits ≠ []
  isDigit : ∀ digit ∈ digits, digit.isDigit = true

/-- The number that a decimal digit stands for. -/
def figure (digit : Char) : Nat :=
  digit.toNat - '0'.toNat

/-- The number that decimal digits stand for: the last one counts once, and each other one ten
times as much as the one behind it. -/
def placeValue (digits : Text) : Nat :=
  Nat.ofDigits 10 (digits.reverse.map figure)

/-- A sign in front of digits, true for minus; it may be missing. -/
inductive IsSign : Bool → Text → Prop
  | missing : IsSign false []
  | plus : IsSign false ['+']
  | minus : IsSign true ['-']

/-- A magnitude under a sign, true for minus. -/
def signed (negative : Bool) (magnitude : Nat) : Int :=
  if negative then -magnitude else magnitude

/-- A text writes an integer: a sign or none, then decimal digits and nothing else. -/
def Writes (text : Text) (number : Int) : Prop :=
  ∃ negative sign digits, IsSign negative sign ∧ IsDecimal digits ∧ text = sign ++ digits ∧
    number = signed negative (placeValue digits)

/-- A further digit counts once, and makes the digits before it count ten times as much. -/
theorem placeValue_snoc (digits : Text) (digit : Char) :
    placeValue (digits ++ [digit]) = 10 * placeValue digits + figure digit := by
  rw [placeValue, List.reverse_append, List.reverse_singleton, List.singleton_append,
    List.map_cons, Nat.ofDigits_cons, Nat.add_comm]
  rfl

/-- Counting digit by digit from the front comes to the value of the places. -/
theorem ofDigitChars_eq_placeValue (digits : Text) :
    Nat.ofDigitChars 10 digits 0 = placeValue digits := by
  induction digits using List.reverseRecOn with
  | nil => rfl
  | append_singleton digits digit inductionHypothesis =>
    rw [Nat.ofDigitChars_append, inductionHypothesis, placeValue_snoc, Nat.ofDigitChars_cons,
      Nat.ofDigitChars_nil]
    rfl

/-- A decimal digit stands for a number below ten. -/
theorem figure_lt {digit : Char} (decimal : digit.isDigit = true) : figure digit < 10 := by
  have codes := codes_of_isDigit decimal
  have zero : '0'.toNat = 48 := rfl
  rw [figure, zero]
  omega

/-- A reader refuses what are not one or more digits. -/
theorem refused_iff {digits : Text} :
    (digits.isEmpty || !digits.all Char.isDigit) = true ↔ ¬IsDecimal digits := by
  rw [Bool.or_eq_true, List.isEmpty_iff, Bool.not_eq_true', ← Bool.not_eq_true, List.all_eq_true]
  constructor
  · rintro (empty | other) decimal
    · exact decimal.nonempty empty
    · exact other decimal.isDigit
  · intro refused
    by_cases empty : digits = []
    · exact Or.inl empty
    · exact Or.inr fun isDigit => refused ⟨empty, isDigit⟩

/-- Every text is a sign, which may be missing, and what is read behind it. -/
theorem exists_sign (text : Text) :
    ∃ sign, IsSign (readSign text).1 sign ∧ text = sign ++ (readSign text).2 := by
  fun_cases readSign text with
  | case1 rest => exact ⟨['-'], .minus, rfl⟩
  | case2 rest => exact ⟨['+'], .plus, rfl⟩
  | case3 text notMinus notPlus => exact ⟨[], .missing, rfl⟩

/-- A sign in front of digits is read as this sign. -/
theorem readSign_append {negative : Bool} {sign digits : Text} (signs : IsSign negative sign)
    (decimal : IsDecimal digits) : readSign (sign ++ digits) = (negative, digits) := by
  cases signs with
  | plus => rfl
  | minus => rfl
  | missing =>
    have begins {mark : Char} (other : mark.isDigit = false) (rest : Text) :
        digits ≠ mark :: rest := by
      rintro rfl
      exact absurd (decimal.isDigit mark List.mem_cons_self) (by simp [other])
    rw [List.nil_append, readSign]
    · exact begins (by decide)
    · exact begins (by decide)

/-- The natural number of a text is read exactly from one or more digits, by their places. -/
theorem readNat?_eq_some_iff {digits : Text} {magnitude : Nat} :
    readNat? digits = some magnitude ↔ IsDecimal digits ∧ magnitude = placeValue digits := by
  rw [readNat?, ofDigitChars_eq_placeValue]
  by_cases decimal : IsDecimal digits
  · rw [if_neg fun refused => refused_iff.mp refused decimal, Option.some.injEq, eq_comm]
    exact (and_iff_right decimal).symm
  · rw [if_pos (refused_iff.mpr decimal)]
    simp [decimal]

/-- An integer is read from a text exactly if the text writes it. -/
theorem readInteger?_eq_some_iff {text : Text} {number : Int} :
    readInteger? text = some number ↔ Writes text number := by
  have opened : readInteger? text =
      (readNat? (readSign text).2).map (signed (readSign text).1) := by
    rw [readInteger?]
    obtain ⟨negative, digits⟩ := readSign text
    dsimp only
    cases readNat? digits <;> rfl
  rw [opened, Option.map_eq_some_iff]
  constructor
  · rintro ⟨magnitude, read, rfl⟩
    obtain ⟨decimal, rfl⟩ := readNat?_eq_some_iff.mp read
    obtain ⟨sign, signs, whole⟩ := exists_sign text
    exact ⟨_, sign, _, signs, decimal, whole, rfl⟩
  · rintro ⟨negative, sign, digits, signs, decimal, rfl, rfl⟩
    rw [readSign_append signs decimal]
    exact ⟨_, readNat?_eq_some_iff.mpr ⟨decimal, rfl⟩, rfl⟩

/-- A text writes one integer at most. -/
theorem Writes.unique {text : Text} {first second : Int} (written : Writes text first)
    (written' : Writes text second) : first = second := by
  have read : readInteger? text = some first := readInteger?_eq_some_iff.mpr written
  have read' : readInteger? text = some second := readInteger?_eq_some_iff.mpr written'
  exact Option.some.inj (read.symm.trans read')

/-- The numeral of an integer writes it. -/
theorem Numeral.writes {number : Int} {text : Text} (numeral : Numeral number text) :
    Writes text number := by
  obtain ⟨digits, rfl, nonempty, isDigit, _, value⟩ := numeral
  rw [ofDigitChars_eq_placeValue] at value
  by_cases below : number < 0
  · refine ⟨true, ['-'], digits, .minus, ⟨nonempty, isDigit⟩, by rw [if_pos below], ?_⟩
    rw [signed, if_pos rfl]
    omega
  · refine ⟨false, [], digits, .missing, ⟨nonempty, isDigit⟩, by rw [if_neg below], ?_⟩
    rw [signed, if_neg (by decide)]
    omega

/-! ### Counting in words -/

/-- A word that was computed, unless the computation has overflowed. -/
def checked (overflown : Bool) (word : Int64) : Option Int64 :=
  if overflown then none else some word

/-- One more digit behind the digits that a word counts: the word is multiplied by ten, and the
digit is added or, below zero, taken away. -/
def appendDigit? (negative : Bool) (word : Int64) (digit : Char) : Option Int64 := do
  let unit := Int64.ofNat (figure digit)
  let tens ← checked (word.toBitVec.smulOverflow (10 : Int64).toBitVec) (word * 10)
  if negative then checked (tens.toBitVec.ssubOverflow unit.toBitVec) (tens - unit)
  else checked (tens.toBitVec.saddOverflow unit.toBitVec) (tens + unit)

/-- The integer written by a text, counted digit by digit in words. -/
def countInWords? (text : Text) : Option Int64 :=
  let (negative, digits) := readSign text
  if digits.isEmpty || !digits.all Char.isDigit then none
  else digits.foldlM (appendDigit? negative) 0

/-- Every integer of the range is held by a word. -/
theorem exists_word (number : Int) (lower : -2 ^ 63 ≤ number) (upper : number < 2 ^ 63) :
    ∃ word : Int64, word.toInt = number :=
  ⟨Int64.ofInt number, Int64.toInt_ofInt_of_le lower upper⟩

/-- A checked computation has exactly the integer for its result that it stands for, if a word
holds it. -/
theorem checked_eq_some_iff {overflown : Bool} {word result : Int64} {number : Int}
    (exactly : overflown = false → word.toInt = number)
    (beyond : overflown = true → number < -2 ^ 63 ∨ 2 ^ 63 ≤ number) :
    checked overflown word = some result ↔ result.toInt = number := by
  cases overflown with
  | false =>
    rw [checked, if_neg (by decide), Option.some.injEq, ← exactly rfl, Int64.toInt_inj, eq_comm]
  | true =>
    have lower := result.le_toInt
    have upper := result.toInt_lt
    have outside := beyond rfl
    simp only [checked, if_true, reduceCtorEq, false_iff]
    omega

/-- Ten times a word. -/
theorem checked_mul_eq_some_iff {word result : Int64} :
    checked (word.toBitVec.smulOverflow (10 : Int64).toBitVec) (word * 10) = some result ↔
      result.toInt = word.toInt * 10 := by
  have ten : (10 : Int64).toBitVec.toInt = 10 := by decide
  apply checked_eq_some_iff
  · intro fits
    have product := BitVec.toInt_mul_of_not_smulOverflow (Bool.eq_false_iff.mp fits)
    rwa [ten] at product
  · intro overflown
    simp only [BitVec.smulOverflow, ten, Int64.toInt_toBitVec, Bool.or_eq_true,
      decide_eq_true_eq] at overflown
    omega

/-- The sum of two words. -/
theorem checked_add_eq_some_iff {word unit result : Int64} :
    checked (word.toBitVec.saddOverflow unit.toBitVec) (word + unit) = some result ↔
      result.toInt = word.toInt + unit.toInt := by
  apply checked_eq_some_iff
  · intro fits
    exact BitVec.toInt_add_of_not_saddOverflow (Bool.eq_false_iff.mp fits)
  · intro overflown
    simp only [BitVec.saddOverflow, Int64.toInt_toBitVec, Bool.or_eq_true,
      decide_eq_true_eq] at overflown
    omega

/-- The difference of two words. -/
theorem checked_sub_eq_some_iff {word unit result : Int64} :
    checked (word.toBitVec.ssubOverflow unit.toBitVec) (word - unit) = some result ↔
      result.toInt = word.toInt - unit.toInt := by
  apply checked_eq_some_iff
  · intro fits
    exact BitVec.toInt_sub_of_not_ssubOverflow (Bool.eq_false_iff.mp fits)
  · intro overflown
    simp only [BitVec.ssubOverflow, Int64.toInt_toBitVec, Bool.or_eq_true,
      decide_eq_true_eq] at overflown
    omega

/-- One more digit is counted exactly if a word holds the longer number.

The product with ten cannot overflow on its own: the digit leads further away from zero. -/
theorem appendDigit?_eq_some_iff {negative : Bool} {word result : Int64} {magnitude : Nat}
    {digit : Char} (decimal : digit.isDigit = true)
    (held : word.toInt = signed negative magnitude) :
    appendDigit? negative word digit = some result ↔
      result.toInt = signed negative (10 * magnitude + figure digit) := by
  have small := figure_lt decimal
  have unit : (Int64.ofNat (figure digit)).toInt = figure digit :=
    Int64.toInt_ofNat_of_lt (by omega)
  have lower := result.le_toInt
  have upper := result.toInt_lt
  rw [appendDigit?, Option.bind_eq_bind, Option.bind_eq_some_iff]
  simp only [checked_mul_eq_some_iff]
  cases negative with
  | false =>
    simp only [signed, Bool.false_eq_true, if_false, checked_add_eq_some_iff, unit] at held ⊢
    constructor
    · rintro ⟨tens, product, sum⟩
      omega
    · intro sum
      obtain ⟨tens, product⟩ := exists_word (word.toInt * 10) (by omega) (by omega)
      exact ⟨tens, product, by omega⟩
  | true =>
    simp only [signed, if_true, checked_sub_eq_some_iff, unit] at held ⊢
    constructor
    · rintro ⟨tens, product, difference⟩
      omega
    · intro difference
      obtain ⟨tens, product⟩ := exists_word (word.toInt * 10) (by omega) (by omega)
      exact ⟨tens, product, by omega⟩

/-- Digits are counted in words exactly if a word holds what they stand for.

Proof: by induction on the digits, from the last one. If a word holds the number of all digits, it
also holds that of the digits before the last, which is no further away from zero. -/
theorem foldlM_appendDigit?_eq_some_iff {negative : Bool} {digits : Text}
    (isDigit : ∀ digit ∈ digits, digit.isDigit = true) {result : Int64} :
    digits.foldlM (appendDigit? negative) 0 = some result ↔
      result.toInt = signed negative (placeValue digits) := by
  induction digits using List.reverseRecOn generalizing result with
  | nil =>
    have nothing : signed negative (placeValue []) = (0 : Int64).toInt := by
      cases negative <;> decide
    rw [nothing, Int64.toInt_inj, List.foldlM_nil, eq_comm]
    exact Option.some_inj
  | append_singleton digits digit inductionHypothesis =>
    have before : ∀ digit ∈ digits, digit.isDigit = true :=
      fun other member => isDigit other (List.mem_append_left _ member)
    have last : digit.isDigit = true :=
      isDigit digit (List.mem_append_right _ List.mem_cons_self)
    rw [List.foldlM_append, Option.bind_eq_bind, Option.bind_eq_some_iff, placeValue_snoc]
    simp only [List.foldlM_cons, List.foldlM_nil, bind_pure]
    constructor
    · rintro ⟨word, counted, appended⟩
      have held := (inductionHypothesis before).mp counted
      exact (appendDigit?_eq_some_iff last held).mp appended
    · intro total
      have lower := result.le_toInt
      have upper := result.toInt_lt
      obtain ⟨word, held⟩ : ∃ word : Int64, word.toInt = signed negative (placeValue digits) := by
        cases negative with
        | false =>
          simp only [signed, Bool.false_eq_true, if_false] at total ⊢
          exact exists_word _ (by omega) (by omega)
        | true =>
          simp only [signed, if_true] at total ⊢
          exact exists_word _ (by omega) (by omega)
      exact ⟨word, (inductionHypothesis before).mpr held,
        (appendDigit?_eq_some_iff last held).mpr total⟩

/-- Counting in words comes to a result exactly if the text writes it. -/
theorem countInWords?_eq_some_iff {text : Text} {result : Int64} :
    countInWords? text = some result ↔ Writes text result.toInt := by
  have opened : countInWords? text =
      if (readSign text).2.isEmpty || !(readSign text).2.all Char.isDigit then none
      else (readSign text).2.foldlM (appendDigit? (readSign text).1) 0 := rfl
  rw [opened]
  constructor
  · intro counted
    by_cases decimal : IsDecimal (readSign text).2
    · rw [if_neg fun refused => refused_iff.mp refused decimal] at counted
      obtain ⟨sign, signs, whole⟩ := exists_sign text
      exact ⟨_, sign, _, signs, decimal, whole,
        (foldlM_appendDigit?_eq_some_iff decimal.isDigit).mp counted⟩
    · rw [if_pos (refused_iff.mpr decimal)] at counted
      simp at counted
  · rintro ⟨negative, sign, digits, signs, decimal, rfl, held⟩
    rw [readSign_append signs decimal, if_neg fun refused => refused_iff.mp refused decimal]
    exact (foldlM_appendDigit?_eq_some_iff decimal.isDigit).mpr held

end Phrasebook.Number
