import Mathlib
import Phrasebook.Proofs.RunningText

/-!
# Integers in figures

An integer is shown by its decimal numeral: a minus sign if it is below zero, and the digits of its
magnitude without a superfluous zero. A numeral stands for one integer only, and nothing in it has
a meaning in a template, so a variable that holds an integer shows the numeral of just this one.

What a variable holds is a signed 64-bit integer. All 32-bit integers are among them, with a sign
or without. An unsigned 64-bit word is taken by its bits, and from 2^63 on these stand for an
integer below zero: such a word is shown as what it is less 2^64.
-/

namespace Phrasebook

namespace Number

/-- The decimal numeral of an integer: a minus sign if it is below zero, and then the digits of its
magnitude, with a zero in front only if it is the sole digit. -/
def Numeral (number : Int) (text : Text) : Prop :=
  ∃ digits, text = (if number < 0 then ['-'] else []) ++ digits ∧ digits ≠ [] ∧
    (∀ digit ∈ digits, digit.isDigit = true) ∧
    (digits.head? = some '0' → digits = ['0']) ∧
    Nat.ofDigitChars 10 digits 0 = number.natAbs

/-- The codes of the decimal digits. -/
theorem codes_of_isDigit {digit : Char} (decimal : digit.isDigit = true) :
    48 ≤ digit.toNat ∧ digit.toNat ≤ 57 := by
  simpa [Char.isDigit, UInt32.le_iff_toNat_le] using decimal

/-- The digits of a number above zero do not begin with a zero. -/
theorem head?_toDigits_ne {number : Nat} (positive : 0 < number) :
    (Nat.toDigits 10 number).head? ≠ some '0' := by
  induction number using Nat.strong_induction_on with
  | _ number inductionHypothesis =>
    by_cases small : number < 10
    · have all : ∀ digit : Fin 10, 0 < digit.val → digit.val.digitChar ≠ '0' := by decide
      rw [Nat.toDigits_of_lt_base small, List.head?_cons, ne_eq, Option.some.injEq]
      exact all ⟨number, small⟩ positive
    · rw [Nat.toDigits_of_base_le (by decide) (by omega),
        List.head?_append_of_ne_nil _ Nat.toDigits_ne_nil]
      exact inductionHypothesis (number / 10) (by omega) (by omega)

/-- The figures of an integer are its numeral. -/
theorem numeral_integerText (number : Int) : Numeral number (integerText number) := by
  refine ⟨Nat.toDigits 10 number.natAbs, rfl, Nat.toDigits_ne_nil,
    fun digit member => Nat.isDigit_of_mem_toDigits (by decide) (by decide) member, ?_,
    Nat.ofDigitChars_ten_toDigits⟩
  intro leading
  by_cases nothing : number.natAbs = 0
  · rw [nothing, Nat.toDigits_zero]
  · exact absurd leading (head?_toDigits_ne (Nat.pos_of_ne_zero nothing))

/-- A numeral stands for one integer only. -/
theorem Numeral.unique {first second : Int} {text : Text} (numeral : Numeral first text)
    (numeral' : Numeral second text) : first = second := by
  obtain ⟨digits, rfl, _, figures, _, value⟩ := numeral
  obtain ⟨others, same, _, figures', _, value'⟩ := numeral'
  have sign {list : Text} (figures : ∀ digit ∈ list, digit.isDigit = true) : '-' ∉ list :=
    fun member => absurd (figures '-' member) (by decide)
  by_cases below : first < 0
  · by_cases below' : second < 0
    · rw [if_pos below, if_pos below'] at same
      obtain rfl := List.append_cancel_left same
      omega
    · rw [if_pos below, if_neg below', List.nil_append] at same
      exact absurd (same ▸ List.mem_append_left _ List.mem_cons_self) (sign figures')
  · by_cases below' : second < 0
    · rw [if_neg below, if_pos below', List.nil_append] at same
      exact absurd (same ▸ List.mem_append_left _ List.mem_cons_self) (sign figures)
    · rw [if_neg below, if_neg below'] at same
      obtain rfl := List.append_cancel_left same
      omega

/-- The characters of a numeral are digits and the minus sign. -/
theorem Numeral.isDigit_or_eq {number : Int} {text : Text} (numeral : Numeral number text)
    {character : Char} (member : character ∈ text) :
    character.isDigit = true ∨ character = '-' := by
  obtain ⟨digits, rfl, _, figures, _, _⟩ := numeral
  rcases List.mem_append.mp member with sign | digit
  · split at sign
    · exact Or.inr (List.mem_singleton.mp sign)
    · simp at sign
  · exact Or.inl (figures character digit)

/-- An unsigned word, taken by its bits, is less by 2^64 if it reaches 2^63. -/
theorem toInt_toInt64 (word : UInt64) :
    word.toInt64.toInt =
      if word.toNat < 2 ^ 63 then (word.toNat : Int) else word.toNat - 2 ^ 64 := by
  have bound := word.toNat_lt
  have taken : word.toInt64 = Int64.ofNat word.toNat := by
    rw [← UInt64.toInt64_ofNat', UInt64.ofNat_toNat]
  rw [taken, Int64.toInt_ofNat', Int.bmod]
  simp only [Int64.size]
  split <;> split <;> omega

end Number

/-- A text without blanks is trimmed already. -/
theorem Text.trim_eq_self {text : Text} (visible : ∀ character ∈ text, isBlank character = false) :
    trim text = text := by
  have start {list : Text} (visible : ∀ character ∈ list, isBlank character = false) :
      list.dropWhile isBlank = list := by
    cases list with
    | nil => rfl
    | cons first rest => simp [visible first List.mem_cons_self]
  have mirrored : ∀ character ∈ text.reverse, isBlank character = false :=
    fun character member => visible character (List.mem_reverse.mp member)
  rw [trim, trimStart, start visible, trimEnd, start mirrored, List.reverse_reverse]

namespace Template

open Number

variable {scope : Scope} {name : Text}

/-- Nothing in a numeral has a meaning in templates. -/
theorem ordinary_of_numeral {number : Int} {text : Text} (numeral : Numeral number text) :
    Ordinary text := by
  intro character member
  rcases numeral.isDigit_or_eq member with digit | rfl
  · rw [isOrdinary_iff]
    refine ⟨?_, ?_, ?_, ?_, ?_⟩ <;> rintro rfl <;> simp at digit
  · decide

/-- Nothing in a numeral is a blank. -/
theorem isBlank_of_numeral {number : Int} {text : Text} (numeral : Numeral number text)
    {character : Char} (member : character ∈ text) : Text.isBlank character = false := by
  rcases numeral.isDigit_or_eq member with digit | rfl
  · have codes := codes_of_isDigit digit
    simp only [Text.isBlank, Bool.or_eq_false_iff, Bool.and_eq_false_iff, decide_eq_false_iff_not,
      beq_eq_false_iff_ne]
    omega
  · decide

/-- A reference shows the text of the value, if this is ordinary and has no blanks. -/
theorem render_reference {value : Value} (ordinaryName : Ordinary name)
    (bound : scope.bindings.find? name = some value) (ordinary : Ordinary value.text)
    (visible : ∀ character ∈ value.text, Text.isBlank character = false) :
    render scope ('{' :: name ++ ['}']) = .ok value.text := by
  have silent : callSites scope.functions.keys ('{' :: name ++ ['}']) = [] := by
    apply callSites_eq_nil_of_escaped
    intro front back whole
    have member : ':' ∈ '{' :: name ++ ['}'] := by
      rw [whole]
      simp
    simp [ordinaryName.colon_absent] at member
  have stands : scope.referenceText name = value.text := scope.referenceText_of_find? bound
  have substituted : substitute scope.bindings ('{' :: name ++ ['}']) = value.text := by
    have bare : Ordinary [] := by decide
    have nothing : substituteAfter scope.bindings false [] = [] := substituteAfter_ordinary bare
    have read := substituteAfter_reference scope ordinaryName []
    rwa [List.append_nil, stands, nothing, List.append_nil] at read
  have stripped : strip value.text = value.text :=
    (strip_eq_self_iff _).mpr (levelAtMost_zero_of_not_mem ordinary.backslash_absent)
  rw [render_of_callSites_nil silent, finish, substituted, stripped, Text.trim_eq_self visible]

/-- A reference is rendered to the numeral of an integer. -/
def Shows (scope : Scope) (name : Text) (number : Int) : Prop :=
  ∃ text, render scope ('{' :: name ++ ['}']) = .ok text ∧ Numeral number text

/-- A variable that holds an integer shows this integer and no other. -/
theorem shows_iff (ordinaryName : Ordinary name) {held : Int64}
    (bound : scope.bindings.find? name = some (.number held)) {number : Int} :
    Shows scope name number ↔ number = held.toInt := by
  have numeral := numeral_integerText held.toInt
  have rendered : render scope ('{' :: name ++ ['}']) = .ok (integerText held.toInt) :=
    render_reference ordinaryName bound (ordinary_of_numeral numeral)
      (fun _ member => isBlank_of_numeral numeral member)
  constructor
  · rintro ⟨text, shown, numeral'⟩
    obtain rfl := Except.ok.inj (rendered.symm.trans shown)
    exact numeral'.unique numeral
  · rintro rfl
    exact ⟨_, rendered, numeral⟩

/-- A variable that is set to an integer shows this integer, if its type has a sign or 32 bits. If
it is an unsigned 64-bit word it shows it exactly if it is less than 2^63, and else it shows what
is less by 2^64.

Proof: in each case the variable holds a signed 64-bit integer, and shows this one and no other. -/
theorem integers_shown_iff (scope : Scope) (name : Text) (ordinaryName : Ordinary name) :
    (∀ number : Int32, scope.bindings.find? name = some (.ofInt32 number) →
      Shows scope name number.toInt) ∧
    (∀ number : UInt32, scope.bindings.find? name = some (.ofUInt32 number) →
      Shows scope name number.toNat) ∧
    (∀ number : Int64, scope.bindings.find? name = some (.number number) →
      Shows scope name number.toInt) ∧
    ∀ number : UInt64, scope.bindings.find? name = some (.ofUInt64 number) →
      (Shows scope name number.toNat ↔ number.toNat < 2 ^ 63) ∧
        (2 ^ 63 ≤ number.toNat → Shows scope name (number.toNat - 2 ^ 64)) := by
  refine ⟨fun number bound => ?_, fun number bound => ?_, fun number bound => ?_,
    fun number bound => ?_⟩
  · exact (shows_iff ordinaryName bound).mpr number.toInt_toInt64.symm
  · have small : number.toNat < 2 ^ 63 := Nat.lt_trans number.toNat_lt (by decide)
    exact (shows_iff ordinaryName bound).mpr (Int64.toInt_ofNat_of_lt small).symm
  · exact (shows_iff ordinaryName bound).mpr rfl
  · have limit := number.toNat_lt
    rw [shows_iff ordinaryName bound, shows_iff ordinaryName bound, toInt_toInt64]
    constructor
    · split <;> omega
    · intro great
      rw [if_neg (Nat.not_lt.mpr great)]

/-- The ends of the ranges are shown as they are, and behind the greatest signed integer the
unsigned words begin again at the least one. -/
theorem integers_shown_iff_ends :
    let scope : Scope :=
      ⟨Dictionary.ofList [(['a'], .ofInt32 (-2147483648)), (['b'], .ofUInt32 4294967295),
        (['c'], .number (-9223372036854775808)), (['d'], .ofUInt64 9223372036854775807),
        (['e'], .ofUInt64 9223372036854775808)], .empty⟩
    scope.bindings.find? ['a'] = some (.ofInt32 (-2147483648)) ∧
      scope.bindings.find? ['b'] = some (.ofUInt32 4294967295) ∧
      scope.bindings.find? ['c'] = some (.number (-9223372036854775808)) ∧
      scope.bindings.find? ['d'] = some (.ofUInt64 9223372036854775807) ∧
      scope.bindings.find? ['e'] = some (.ofUInt64 9223372036854775808) ∧
      Shows scope ['a'] (-2147483648) ∧ Shows scope ['b'] 4294967295 ∧
      Shows scope ['c'] (-9223372036854775808) ∧ Shows scope ['d'] 9223372036854775807 ∧
      ¬Shows scope ['e'] 9223372036854775808 ∧ Shows scope ['e'] (-9223372036854775808) := by
  intro scope
  have signed : scope.bindings.find? ['a'] = some (.ofInt32 (-2147483648)) := by decide
  have unsigned : scope.bindings.find? ['b'] = some (.ofUInt32 4294967295) := by decide
  have least : scope.bindings.find? ['c'] = some (.number (-9223372036854775808)) := by decide
  have greatest : scope.bindings.find? ['d'] = some (.ofUInt64 9223372036854775807) := by decide
  have beyond : scope.bindings.find? ['e'] = some (.ofUInt64 9223372036854775808) := by decide
  obtain ⟨showsSigned, _, _, _⟩ := integers_shown_iff scope ['a'] (by decide)
  obtain ⟨_, showsUnsigned, _, _⟩ := integers_shown_iff scope ['b'] (by decide)
  obtain ⟨_, _, showsLeast, _⟩ := integers_shown_iff scope ['c'] (by decide)
  obtain ⟨_, _, _, showsGreatest⟩ := integers_shown_iff scope ['d'] (by decide)
  obtain ⟨_, _, _, showsBeyond⟩ := integers_shown_iff scope ['e'] (by decide)
  obtain ⟨wrapped, less⟩ := showsBeyond _ beyond
  exact ⟨signed, unsigned, least, greatest, beyond, showsSigned _ signed,
    showsUnsigned _ unsigned, showsLeast _ least, (showsGreatest _ greatest).1.mpr (by decide),
    fun shown => absurd (wrapped.mp shown) (by decide), less (by decide)⟩

/-- Not every integer is shown: of the unsigned words the greatest comes out as minus one. -/
theorem not_shown_greatest :
    let scope : Scope := ⟨Dictionary.ofList [(['x'], .ofUInt64 18446744073709551615)], .empty⟩
    scope.bindings.find? ['x'] = some (.ofUInt64 18446744073709551615) ∧
      render scope ['{', 'x', '}'] = .ok ['-', '1'] ∧
      ¬Shows scope ['x'] (18446744073709551615 : UInt64).toNat := by
  intro scope
  have bound : scope.bindings.find? ['x'] = some (.ofUInt64 18446744073709551615) := by decide
  have rendered : render scope ['{', 'x', '}'] = .ok ['-', '1'] := by cbv
  refine ⟨bound, rendered, fun shown => ?_⟩
  exact absurd ((shows_iff (by decide) bound).mp shown) (by decide)

end Template

end Phrasebook
