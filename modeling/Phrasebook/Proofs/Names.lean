import Phrasebook.Proofs.Splits
import Phrasebook.Template.Call.Reader
import Phrasebook.Template.CallSite
import Phrasebook.Template.Escape

/-!
# Names that no reader mistakes

A delimiter or a backslash inside a name would let a reader of templates stop in the middle
of it. The laws of this library that speak about calls therefore ask for plain names: at
least one character, and only ordinary ones. Such a name is read back whole in front of its
colon, and it ends a text exactly if it ends the last run of ordinary characters in it.

A registry may ask more: that no name is the proper ending of another. Then a colon
completes at most one registered name.
-/

namespace Phrasebook.Template

/-- The characters without a meaning in templates: all but the delimiters and the backslash. -/
def isOrdinary (character : Char) : Bool :=
  !isDelimiter character && character != '\\'

/-- A text without delimiters and backslashes. -/
def Ordinary (text : Text) : Prop :=
  ∀ character ∈ text, isOrdinary character = true

/-- A name of ordinary characters, at least one of them. -/
structure PlainName (name : Text) : Prop where
  nonempty : name ≠ []
  ordinary : Ordinary name

instance (text : Text) : Decidable (Ordinary text) :=
  decidable_of_iff (text.all isOrdinary = true) List.all_eq_true

instance (name : Text) : Decidable (PlainName name) :=
  decidable_of_iff (name ≠ [] ∧ Ordinary name)
    ⟨fun parts => ⟨parts.1, parts.2⟩, fun plain => ⟨plain.nonempty, plain.ordinary⟩⟩

/-- No name is the proper ending of another. -/
def NoneEndsAnother (names : List Text) : Prop :=
  ∀ name ∈ names, ∀ other ∈ names, name <:+ other → name = other

/-- The characters that open an argument. -/
def IsOpener (character : Char) : Prop :=
  character = '"' ∨ character = '{'

/-- An ordinary character is none of the five that have a meaning. -/
theorem isOrdinary_iff {character : Char} :
    isOrdinary character = true ↔
      character ≠ ':' ∧ character ≠ '"' ∧ character ≠ '{' ∧ character ≠ '}' ∧ character ≠ '\\' := by
  simp [isOrdinary, isDelimiter, and_assoc]

/-- A character is plain in quotes if it is none of the three that end a run there. -/
theorem isPlain_iff {character : Char} :
    isPlain character = true ↔ character ≠ '"' ∧ character ≠ '{' ∧ character ≠ '\\' := by
  simp [isPlain, and_assoc]

/-- An ordinary character is plain in quotes. -/
theorem isPlain_of_ordinary {character : Char} (ordinary : isOrdinary character = true) :
    isPlain character = true := by
  obtain ⟨_, quote, brace, _, backslash⟩ := isOrdinary_iff.mp ordinary
  exact isPlain_iff.mpr ⟨quote, brace, backslash⟩

/-- A name takes its characters from the ordinary ones, first and others alike. -/
theorem ordinary_cons {first : Char} {rest : Text} :
    Ordinary (first :: rest) ↔ isOrdinary first = true ∧ Ordinary rest := by
  simp [Ordinary]

/-- Two texts in a row are ordinary if both are. -/
theorem ordinary_append {before after : Text} :
    Ordinary (before ++ after) ↔ Ordinary before ∧ Ordinary after := by
  simp only [Ordinary, List.mem_append]
  constructor
  · intro all
    exact ⟨fun character member => all character (Or.inl member),
      fun character member => all character (Or.inr member)⟩
  · rintro ⟨first, second⟩ character (member | member)
    · exact first character member
    · exact second character member

/-- No colon stands in an ordinary text. -/
theorem Ordinary.colon_absent {text : Text} (ordinary : Ordinary text) : ':' ∉ text :=
  fun member => (isOrdinary_iff.mp (ordinary ':' member)).1 rfl

/-- No closing brace stands in an ordinary text. -/
theorem Ordinary.brace_absent {text : Text} (ordinary : Ordinary text) : '}' ∉ text :=
  fun member => (isOrdinary_iff.mp (ordinary '}' member)).2.2.2.1 rfl

/-- No quote stands in an ordinary text. -/
theorem Ordinary.quote_absent {text : Text} (ordinary : Ordinary text) : '"' ∉ text :=
  fun member => (isOrdinary_iff.mp (ordinary '"' member)).2.1 rfl

/-- No backslash stands in an ordinary text. -/
theorem Ordinary.backslash_absent {text : Text} (ordinary : Ordinary text) : '\\' ∉ text :=
  fun member => (isOrdinary_iff.mp (ordinary '\\' member)).2.2.2.2 rfl

/-- No backslash ends an ordinary text. -/
theorem Ordinary.getLast_ne {text : Text} (ordinary : Ordinary text) :
    text.getLast? ≠ some '\\' := by
  intro last
  exact ordinary.backslash_absent (List.mem_of_getLast? last)

/-- No backslash stands before what follows a plain name. -/
theorem PlainName.head?_reverse_append_ne {name : Text} (plain : PlainName name) (seen : Text) :
    (name.reverse ++ seen).head? ≠ some '\\' := by
  cases mirrored : name.reverse with
  | nil => exact absurd (List.reverse_eq_nil_iff.mp mirrored) plain.nonempty
  | cons last others =>
    have member : last ∈ name := List.mem_reverse.mp (mirrored ▸ List.mem_cons_self)
    simpa using (isOrdinary_iff.mp (plain.ordinary last member)).2.2.2.2

/-- A plain name does not begin with a character that has a meaning. -/
theorem PlainName.append_ne_cons {name : Text} (plain : PlainName name) {special : Char}
    (meaning : isOrdinary special = false) (after rest : Text) :
    name ++ after ≠ special :: rest := by
  cases name with
  | nil => exact absurd rfl plain.nonempty
  | cons first others =>
    intro same
    have ordinary : isOrdinary first = true := plain.ordinary first List.mem_cons_self
    rw [(List.cons.inj same).1, meaning] at ordinary
    exact absurd ordinary (by decide)

/-- An opener has a meaning in templates. -/
theorem IsOpener.meaning {opener : Char} (opens : IsOpener opener) :
    isOrdinary opener = false := by
  rcases opens with rfl | rfl <;> decide

/-- A call begins where a name stands before a colon that it does not escape and an opener. -/
theorem startsCall_eq_true_iff {name text : Text} :
    startsCall name text = true ↔
      name ≠ [] ∧ name.getLast? ≠ some '\\' ∧
        ∃ opener after, IsOpener opener ∧ text = name ++ ':' :: opener :: after := by
  unfold startsCall
  split
  · rename_i after found
    rw [List.isPrefixOf?_eq_some_iff_append_eq] at found
    simp [← found, IsOpener]
  · rename_i after found
    rw [List.isPrefixOf?_eq_some_iff_append_eq] at found
    simp [← found, IsOpener]
  · rename_i other quote brace
    simp only [Bool.false_eq_true, false_iff, not_and, not_exists]
    rintro _ _ opener after (rfl | rfl) whole
    · exact quote after (List.isPrefixOf?_eq_some_iff_append_eq.mpr whole.symm)
    · exact brace after (List.isPrefixOf?_eq_some_iff_append_eq.mpr whole.symm)

/-- The name read from a text stands before its colon. -/
theorem eq_append_of_readName? {escaped : Bool} {text name after : Text}
    (read : readName? escaped text = some (name, after)) : text = name ++ ':' :: after := by
  induction text generalizing escaped name with
  | nil => simp [readName?] at read
  | cons first rest inductionHypothesis =>
    rw [readName?] at read
    split at read
    · rename_i unescaped
      simp only [Bool.and_eq_true, beq_iff_eq] at unescaped
      simp only [Option.some.injEq, Prod.mk.injEq] at read
      obtain ⟨rfl, rfl⟩ := read
      rw [unescaped.1, List.nil_append]
    · obtain ⟨⟨others, remaining⟩, inner, same⟩ := Option.map_eq_some_iff.mp read
      simp only [Prod.mk.injEq] at same
      obtain ⟨rfl, rfl⟩ := same
      rw [inductionHypothesis inner, List.cons_append]

/-- A text without colons is read as the name in front of a colon, unless a backslash at its end
escapes the colon, or one before it if it is empty. -/
theorem readName?_of_not_mem {escaped : Bool} {name after : Text} (colons : ':' ∉ name)
    (unescaped : name.getLast? ≠ some '\\') (free : name = [] → escaped = false) :
    readName? escaped (name ++ ':' :: after) = some (name, after) := by
  induction name generalizing escaped with
  | nil => simp [readName?, free rfl]
  | cons first rest inductionHypothesis =>
    obtain ⟨colon, otherColons⟩ := not_or.mp (List.mem_cons.not.mp colons)
    have read : readName? (first == '\\') (rest ++ ':' :: after) = some (rest, after) := by
      refine inductionHypothesis otherColons ?_ ?_
      · intro last
        exact unescaped (by simp [List.getLast?_cons, last])
      · rintro rfl
        simpa using unescaped
    simp [readName?, Ne.symm colon, read]

/-- An ordinary text before a colon is read as the name, unless a backslash before the text
escapes the colon. -/
theorem readName?_ordinary {escaped : Bool} {name after : Text} (ordinary : Ordinary name)
    (free : name = [] → escaped = false) :
    readName? escaped (name ++ ':' :: after) = some (name, after) :=
  readName?_of_not_mem ordinary.colon_absent ordinary.getLast_ne free

/-- A plain name before a colon is read, whatever stands before the name. -/
theorem PlainName.readName? {name : Text} (plain : PlainName name) (escaped : Bool)
    (after : Text) : readName? escaped (name ++ ':' :: after) = some (name, after) :=
  readName?_ordinary plain.ordinary fun nothing => absurd nothing plain.nonempty

/-- Whether plain names end a text depends only on the ordinary characters at its end. -/
theorem followsName_congr {names : List Text} (plain : ∀ name ∈ names, PlainName name)
    {seen seen' : Text} (same : seen.takeWhile isOrdinary = seen'.takeWhile isOrdinary) :
    Text.followsName names seen = Text.followsName names seen' := by
  have within (name : Text) (ordinary : Ordinary name) (text : Text) :
      name.reverse <+: text ↔ name.reverse <+: text.takeWhile isOrdinary := by
    constructor
    · rintro ⟨rest, rfl⟩
      have mirrored : ∀ character ∈ name.reverse, isOrdinary character = true :=
        fun character member => ordinary character (List.mem_reverse.mp member)
      rw [List.takeWhile_append_of_pos mirrored]
      exact List.prefix_append _ _
    · exact fun leads => leads.trans (List.takeWhile_prefix isOrdinary)
  have alike (name : Text) (ordinary : Ordinary name) :
      name.reverse <+: seen ↔ name.reverse <+: seen' := by
    rw [within name ordinary seen, within name ordinary seen', same]
  rw [Bool.eq_iff_iff, Text.followsName_eq_true_iff, Text.followsName_eq_true_iff]
  constructor
  · rintro ⟨name, member, nonempty, leads⟩
    exact ⟨name, member, nonempty, (alike name (plain name member).ordinary).mp leads⟩
  · rintro ⟨name, member, nonempty, leads⟩
    exact ⟨name, member, nonempty, (alike name (plain name member).ordinary).mpr leads⟩

end Phrasebook.Template
