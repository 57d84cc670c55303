/-!
# Texts and byte offsets

A text is a list of characters. A place in a text is named by its byte offset in the
UTF-8 form, so that an offset can also fall inside a character or beyond the end.
Cutting a text is therefore partial: it succeeds exactly at the boundary between two
characters, at the start and at the end. The laws below say that a cut loses nothing
and that its offset is the width of what stands before it.
-/

namespace Phrasebook

/-- A text, as the list of its characters. -/
abbrev Text := List Char

namespace Text

/-- The number of bytes of the UTF-8 form. -/
def width : Text → Nat
  | [] => 0
  | first :: rest => first.utf8Size + width rest

/-- The parts before and after a byte offset, if a character begins or the text ends there. -/
def cut? : Text → Nat → Option (Text × Text)
  | text, 0 => some ([], text)
  | [], _ + 1 => none
  | first :: rest, offset + 1 =>
    if first.utf8Size ≤ offset + 1 then
      (cut? rest (offset + 1 - first.utf8Size)).map fun (before, after) => (first :: before, after)
    else none

/-- The parts around the first occurrence of a mark, which belongs to neither. -/
def breakAt? (mark : Char) : Text → Option (Text × Text)
  | [] => none
  | first :: rest =>
    if first = mark then some ([], rest)
    else (breakAt? mark rest).map fun (before, after) => (first :: before, after)

/-- The parts around the first occurrence of a whole word, which belongs to neither. -/
def breakAtWord? (word : Text) : Text → Option (Text × Text)
  | [] => (word.isPrefixOf? []).map fun after => ([], after)
  | first :: rest =>
    match word.isPrefixOf? (first :: rest) with
    | some after => some ([], after)
    | none => (breakAtWord? word rest).map fun (before, after) => (first :: before, after)

/-- Whether one of the non-empty names ends a text, which is given from its end to its start. -/
def followsName (names : List Text) (seen : Text) : Bool :=
  names.any fun name => !name.isEmpty && name.reverse.isPrefixOf seen

/-- Whether one of the non-empty names ends a text. -/
def endsWithName (names : List Text) (text : Text) : Bool :=
  followsName names text.reverse

/-- The texts in order, with a separator between neighbours. -/
def join (separator : Text) (texts : List Text) : Text :=
  separator.intercalate texts

/-- Widths add up along a text. -/
theorem width_append (before after : Text) :
    width (before ++ after) = width before + width after := by
  induction before with
  | nil => simp [width]
  | cons first rest inductionHypothesis => simp [width, inductionHypothesis, Nat.add_assoc]

/-- Every text can be cut where one part of it ends. -/
theorem cut?_append (before after : Text) :
    cut? (before ++ after) (width before) = some (before, after) := by
  induction before with
  | nil => cases after <;> simp [cut?, width]
  | cons first rest inductionHypothesis =>
    have positive := first.utf8Size_pos
    obtain ⟨offset, same⟩ : ∃ offset, width (first :: rest) = offset + 1 :=
      ⟨first.utf8Size + width rest - 1, by simp [width]; omega⟩
    have remaining : offset + 1 - first.utf8Size = width rest := by
      rw [← same]; simp [width]
    have fits : first.utf8Size ≤ offset + 1 := by rw [← same]; simp [width]
    rw [List.cons_append, same, cut?, if_pos fits, remaining, inductionHypothesis]
    rfl

/-- A cut keeps the whole text, and its offset measures the first part. -/
theorem eq_append_of_cut? {text before after : Text} {offset : Nat}
    (cut : cut? text offset = some (before, after)) :
    text = before ++ after ∧ offset = width before := by
  induction text, offset using cut?.induct generalizing before after with
  | case1 text =>
    simp only [cut?, Option.some.injEq, Prod.mk.injEq] at cut
    obtain ⟨rfl, rfl⟩ := cut
    exact ⟨rfl, rfl⟩
  | case2 offset => simp [cut?] at cut
  | case3 first rest offset fits inductionHypothesis =>
    rw [cut?, if_pos fits, Option.map_eq_some_iff] at cut
    obtain ⟨⟨start, stop⟩, inner, same⟩ := cut
    obtain ⟨whole, measured⟩ := inductionHypothesis inner
    simp only [Prod.mk.injEq] at same
    obtain ⟨rfl, rfl⟩ := same
    exact ⟨by rw [whole]; rfl, by simp [width]; omega⟩
  | case4 first rest offset tooWide => simp [cut?, tooWide] at cut

/-- Cutting succeeds exactly at the widths of the text's first parts. -/
theorem cut?_eq_some_iff {text before after : Text} {offset : Nat} :
    cut? text offset = some (before, after) ↔ text = before ++ after ∧ offset = width before :=
  ⟨eq_append_of_cut?, fun ⟨whole, measured⟩ => by rw [whole, measured, cut?_append]⟩

/-- The broken-off part, the mark and the remainder make up the text, and the mark is the first. -/
theorem eq_append_of_breakAt? {mark : Char} {text before after : Text}
    (broken : breakAt? mark text = some (before, after)) :
    text = before ++ mark :: after ∧ mark ∉ before := by
  induction text generalizing before with
  | nil => simp [breakAt?] at broken
  | cons first rest inductionHypothesis =>
    rw [breakAt?] at broken
    split at broken
    · rename_i same
      simp only [Option.some.injEq, Prod.mk.injEq] at broken
      simp [← broken.1, ← broken.2, same]
    · rename_i different
      obtain ⟨⟨start, stop⟩, inner, same⟩ := Option.map_eq_some_iff.1 broken
      simp only [Prod.mk.injEq] at same
      obtain ⟨rfl, rfl⟩ := same
      obtain ⟨whole, absent⟩ := inductionHypothesis inner
      exact ⟨by rw [whole]; rfl, by simp [absent, Ne.symm different]⟩

/-- What stands after a mark is shorter than the text. -/
theorem length_of_breakAt? {mark : Char} {text before after : Text}
    (broken : breakAt? mark text = some (before, after)) : after.length < text.length := by
  rw [(eq_append_of_breakAt? broken).1]
  simp
  omega

end Text

end Phrasebook
