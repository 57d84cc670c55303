import Mathlib.Tactic.SplitIfs
import Phrasebook.Text

/-!
# Texts in the order of their bytes

Texts are ordered by their characters. The UTF-8 form keeps this order: of two characters the
smaller one has the smaller bytes, and it does not matter what stands behind them. So whoever
orders names by their bytes, without reading a character, puts them in the same order.
-/

namespace Phrasebook.Text

/-- The bytes of the UTF-8 form. -/
def bytes (text : Text) : List UInt8 :=
  text.flatMap String.utf8EncodeChar

/-- The bytes of a text are those of its characters, one after the other. -/
theorem bytes_cons (first : Char) (rest : Text) :
    bytes (first :: rest) = String.utf8EncodeChar first ++ bytes rest :=
  List.flatMap_cons

/-- The bytes of a smaller character are smaller, whatever follows them.

The cases are the lengths of the two forms. If these differ, the first bytes decide; else the
first byte that differs holds the highest of the differing parts of six bits. -/
theorem utf8EncodeChar_append_lt {first second : Char} (smaller : first < second)
    (rest others : List UInt8) :
    String.utf8EncodeChar first ++ rest < String.utf8EncodeChar second ++ others := by
  have below : first.val.toNat < second.val.toNat := smaller
  have bound : second.val.toNat < 0x110000 := by
    rcases second.valid with small | ⟨_, large⟩
    · exact Nat.lt_trans small (by decide)
    · exact large
  have sixBits (code : Nat) :
      code / 4096 = code / 64 / 64 ∧ code / 262144 = code / 64 / 64 / 64 := by
    omega
  unfold String.utf8EncodeChar
  generalize first.val.toNat = code at below
  generalize second.val.toNat = next at below bound
  simp only
  split_ifs <;>
    simp only [List.cons_append, List.nil_append, List.cons_lt_cons_iff,
      UInt8.lt_iff_toNat_lt, ← UInt8.toNat_inj, UInt8.toNat_ofNat', sixBits] <;>
    omega

/-- A smaller text has smaller bytes. -/
theorem bytes_lt_bytes {first second : Text} (smaller : first < second) :
    bytes first < bytes second := by
  induction first generalizing second with
  | nil =>
    cases second with
    | nil => exact absurd smaller (List.lt_irrefl [])
    | cons character rest =>
      rw [bytes_cons]
      cases form : String.utf8EncodeChar character with
      | nil => exact absurd form String.utf8EncodeChar_ne_nil
      | cons byte others => exact List.nil_lt_cons byte _
  | cons character rest inductionHypothesis =>
    cases second with
    | nil => exact absurd smaller (List.not_lt_nil _)
    | cons other others =>
      rw [bytes_cons, bytes_cons]
      rcases List.cons_lt_cons_iff.mp smaller with below | ⟨rfl, behind⟩
      · exact utf8EncodeChar_append_lt below _ _
      · exact List.append_left_lt (inductionHypothesis behind)

/-- Texts are in the order of their bytes. -/
theorem bytes_lt_bytes_iff {first second : Text} : bytes first < bytes second ↔ first < second := by
  constructor
  · intro below
    refine Decidable.byContradiction fun notSmaller => ?_
    rcases List.le_iff_lt_or_eq.mp (List.not_lt.mp notSmaller) with larger | rfl
    · exact List.lt_asymm below (bytes_lt_bytes larger)
    · exact List.lt_irrefl _ below
  · exact bytes_lt_bytes

end Phrasebook.Text
