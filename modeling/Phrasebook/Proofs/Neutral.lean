import Phrasebook.Proofs.Reading
import Phrasebook.Template.Scope

/-!
# Neutral texts

A protected result is put into the text of the calls around it, where it is read again: as a
part of a quoted operand, or as running text. A neutral text means the same in both places,
namely itself. It holds no bare quote and no bare brace, and its backslashes come in front of
other characters, so that no reader carries an escape out of it.

Ordinary text is neutral. So is a protected result, if the result has no opening brace and no
backslash that ends it or stands before another backslash.
-/

namespace Phrasebook.Template

open Text (following following_eq_ok_iff)

/-- Characters without a meaning in quotes, and backslashes with the character they escape. -/
inductive Neutral : Text → Prop where
  | nil : Neutral []
  | plain {first : Char} {rest : Text} (unmarked : isPlain first = true) (others : Neutral rest) :
      Neutral (first :: rest)
  | escaped {second : Char} {rest : Text} (single : second ≠ '\\') (others : Neutral rest) :
      Neutral ('\\' :: second :: rest)

/-- A text is read as the inside of a quoted operand with this value, up to its closing quote. -/
def Reads (scope : Scope) (text value after : Text) : Prop :=
  ∃ pieces, readPieces text = .ok (pieces, after) ∧ pieces.flatMap scope.pieceText = value

/-- A result that has no opening brace, and in which every backslash is followed by a character
that is not a backslash. -/
structure Tame (result : Text) : Prop where
  braceless : '{' ∉ result
  followed : ∀ before after, result = before ++ '\\' :: after →
    ∃ next rest, after = next :: rest ∧ next ≠ '\\'

variable {scope : Scope} {text value after : Text}

/-- The closing quote ends an operand. -/
theorem Reads.closing : Reads scope ('"' :: after) [] after :=
  ⟨[], readPieces_quote after, rfl⟩

/-- A backslash takes the next character with it. -/
theorem Reads.escaped (second : Char) (reads : Reads scope text value after) :
    Reads scope ('\\' :: second :: text) ('\\' :: second :: value) after := by
  obtain ⟨pieces, read, rfl⟩ := reads
  refine ⟨.text ['\\', second] :: pieces, ?_, rfl⟩
  rw [readPieces_backslash]
  exact following_eq_ok_iff.mpr ⟨pieces, read, rfl⟩

/-- A reference stands for the text of the value that its variable has. -/
theorem Scope.referenceText_of_find? {name : Text} {value : Value}
    (bound : scope.bindings.find? name = some value) : scope.referenceText name = value.text := by
  rw [Scope.referenceText, bound]

/-- A reference that no variable answers stands for itself. -/
theorem Scope.referenceText_of_not_mem {name : Text} (unknown : name ∉ scope.bindings.keys) :
    scope.referenceText name = '{' :: name ++ ['}'] := by
  rw [Scope.referenceText, Dictionary.find?_eq_none_iff.mpr unknown]

/-- A reference stands for the value of its variable; neither its closing brace nor a quote may
stand in the name. -/
theorem Reads.embedded {name : Text} (closed : '}' ∉ name) (unquoted : '"' ∉ name)
    (reads : Reads scope text value after) :
    Reads scope ('{' :: (name ++ '}' :: text)) (scope.referenceText name ++ value) after := by
  obtain ⟨pieces, read, rfl⟩ := reads
  refine ⟨.reference name :: pieces, ?_, rfl⟩
  have embedded : readEmbedded? (name ++ '}' :: text) = some (name, text) :=
    readEmbedded?_eq_some_iff.mpr ⟨rfl, closed, unquoted⟩
  rw [readPieces_brace embedded]
  exact following_eq_ok_iff.mpr ⟨pieces, read, rfl⟩

/-- A reference to an ordinary name stands for the value of its variable. -/
theorem Reads.reference {name : Text} (ordinary : Ordinary name)
    (reads : Reads scope text value after) :
    Reads scope ('{' :: name ++ ['}'] ++ text) (scope.referenceText name ++ value) after := by
  have read := reads.embedded ordinary.brace_absent ordinary.quote_absent
  rw [List.append_assoc, List.cons_append, List.singleton_append]
  exact read

/-- The plain characters at the start of a string stand for themselves. -/
theorem Reads.dropWhile (reads : Reads scope text value after) :
    ∃ others, Reads scope (text.dropWhile isPlain) others after ∧
      value = text.takeWhile isPlain ++ others := by
  cases text with
  | nil => exact ⟨value, reads, rfl⟩
  | cons first rest =>
    by_cases plain : isPlain first = true
    · obtain ⟨pieces, read, rfl⟩ := reads
      rw [readPieces_plain plain] at read
      obtain ⟨others, inner, rfl⟩ := following_eq_ok_iff.mp read
      rw [List.dropWhile_cons_of_pos plain, List.takeWhile_cons_of_pos plain]
      exact ⟨_, ⟨others, inner, rfl⟩, rfl⟩
    · rw [List.dropWhile_cons_of_neg plain, List.takeWhile_cons_of_neg plain]
      exact ⟨value, reads, rfl⟩

/-- A plain character stands for itself. -/
theorem Reads.plain {first : Char} (plain : isPlain first = true)
    (reads : Reads scope text value after) :
    Reads scope (first :: text) (first :: value) after := by
  obtain ⟨others, ⟨pieces, read, rfl⟩, rfl⟩ := reads.dropWhile
  refine ⟨.text (first :: text.takeWhile isPlain) :: pieces, ?_, rfl⟩
  rw [readPieces_plain plain]
  exact following_eq_ok_iff.mpr ⟨pieces, read, rfl⟩

/-- A neutral text stands for itself inside quotes. -/
theorem Reads.neutral {front : Text} (neutral : Neutral front)
    (reads : Reads scope text value after) :
    Reads scope (front ++ text) (front ++ value) after := by
  induction neutral with
  | nil => exact reads
  | plain unmarked _ inductionHypothesis => exact inductionHypothesis.plain unmarked
  | escaped _ _ inductionHypothesis => exact inductionHypothesis.escaped _

variable {bindings : Dictionary Value}

/-- Substitution passes over every character but a bare opening brace. -/
theorem substituteAfter_cons {escaped : Bool} {first : Char}
    (passes : first ≠ '{' ∨ escaped = true) (rest : Text) :
    substituteAfter bindings escaped (first :: rest) =
      first :: substituteAfter bindings (first == '\\') rest := by
  have passed : (first == '{' && !escaped) = false := by
    rcases passes with other | rfl
    · simp [other]
    · simp
  rw [substituteAfter.eq_def]
  simp [passed]

/-- Substitution replaces a reference to a variable that has a value. -/
theorem substituteAfter_bound {rest after : Text} {value : Value}
    (bound : boundReference? bindings rest = some (value, after)) :
    substituteAfter bindings false ('{' :: rest) =
      value.text ++ substituteAfter bindings false after := by
  rw [substituteAfter.eq_def]
  simp only [BEq.rfl, Bool.not_false, Bool.and_self, if_true]
  split <;> simp_all

/-- Substitution leaves a brace alone that opens no reference to a variable with a value. -/
theorem substituteAfter_unbound {rest : Text} (unbound : boundReference? bindings rest = none) :
    substituteAfter bindings false ('{' :: rest) = '{' :: substituteAfter bindings false rest := by
  rw [substituteAfter.eq_def]
  simp only [BEq.rfl, Bool.not_false, Bool.and_self, if_true]
  split <;> simp_all

/-- Substitution changes nothing in a neutral text, and goes on behind it as at the start. -/
theorem substituteAfter_neutral {front : Text} (neutral : Neutral front) (rest : Text) :
    substituteAfter bindings false (front ++ rest) =
      front ++ substituteAfter bindings false rest := by
  induction neutral with
  | nil => rfl
  | @plain first others unmarked _ inductionHypothesis =>
    obtain ⟨_, notBrace, notBackslash⟩ := isPlain_iff.mp unmarked
    have unescaped : (first == '\\') = false := by simp [notBackslash]
    rw [List.cons_append, substituteAfter_cons (Or.inl notBrace), unescaped,
      inductionHypothesis, List.cons_append]
  | @escaped second others single _ inductionHypothesis =>
    have unescaped : (second == '\\') = false := by simp [single]
    rw [List.cons_append, List.cons_append, substituteAfter_cons (Or.inl (by decide)),
      beq_self_eq_true, substituteAfter_cons (Or.inr rfl), unescaped, inductionHypothesis,
      List.cons_append, List.cons_append]

/-- A run of plain characters is neutral. -/
theorem neutral_of_isPlain (plain : ∀ character ∈ text, isPlain character = true) :
    Neutral text := by
  induction text with
  | nil => exact .nil
  | cons first rest inductionHypothesis =>
    obtain ⟨here, others⟩ := List.forall_mem_cons.mp plain
    exact .plain here (inductionHypothesis others)

/-- An ordinary text is neutral. -/
theorem Ordinary.neutral (ordinary : Ordinary text) : Neutral text :=
  neutral_of_isPlain fun character member => isPlain_of_ordinary (ordinary character member)

/-- Substitution puts in what a reference stands for, and goes on behind it as at the start. -/
theorem substituteAfter_reference (scope : Scope) {name : Text} (ordinary : Ordinary name)
    (rest : Text) :
    substituteAfter scope.bindings false ('{' :: name ++ ['}'] ++ rest) =
      scope.referenceText name ++ substituteAfter scope.bindings false rest := by
  have broken : Text.breakAt? '}' (name ++ '}' :: rest) = some (name, rest) :=
    Text.breakAt?_eq_some_iff.mpr ⟨rfl, ordinary.brace_absent⟩
  rw [List.append_assoc, List.cons_append, List.singleton_append, Scope.referenceText]
  cases known : scope.bindings.find? name with
  | none =>
    rw [substituteAfter_unbound (by simp [boundReference?, broken, known]),
      substituteAfter_neutral ordinary.neutral, substituteAfter_cons (Or.inl (by decide))]
    simp
  | some value =>
    have bound : boundReference? scope.bindings (name ++ '}' :: rest) = some (value, rest) := by
      simp [boundReference?, broken, known]
    rw [substituteAfter_bound bound]

/-- The empty result is tame. -/
theorem tame_nil : Tame [] where
  braceless := List.not_mem_nil
  followed := by simp

/-- Whether a result is tame can be told from its characters in order. -/
theorem tame_cons {first : Char} {rest : Text} :
    Tame (first :: rest) ↔ first ≠ '{' ∧
      (first = '\\' → ∃ next others, rest = next :: others ∧ next ≠ '\\') ∧ Tame rest := by
  constructor
  · intro tame
    refine ⟨fun same => tame.braceless (same ▸ List.mem_cons_self), ?_, ?_, ?_⟩
    · rintro rfl
      exact tame.followed [] rest rfl
    · exact fun member => tame.braceless (List.mem_cons_of_mem _ member)
    · exact fun before after whole =>
        tame.followed (first :: before) after (by rw [whole, List.cons_append])
  · rintro ⟨notBrace, followed, tame⟩
    refine ⟨?_, ?_⟩
    · simp [Ne.symm notBrace, tame.braceless]
    · rintro (_ | ⟨head, before⟩) after whole
      · obtain ⟨rfl, rfl⟩ := List.cons.inj whole
        exact followed rfl
      · exact tame.followed before after (List.cons.inj whole).2

variable {functionNames variableNames : List Text}

/-- Protection lets every character pass that stands behind a backslash. -/
theorem protectAfter_escaped (seen : Text) (first : Char) (rest : Text) :
    protectAfter functionNames variableNames ('\\' :: seen) (first :: rest) =
      first :: protectAfter functionNames variableNames (first :: '\\' :: seen) rest := by
  rw [protectAfter.eq_def]
  simp

/-- Protection lets every backslash pass. -/
theorem protectAfter_backslash (seen rest : Text) :
    protectAfter functionNames variableNames seen ('\\' :: rest) =
      '\\' :: protectAfter functionNames variableNames ('\\' :: seen) rest := by
  rw [protectAfter.eq_def]
  simp

/-- A character that is neither a backslash nor an opening brace comes out of protection as it
is, unless it is a quote, or, being a delimiter, with a backslash in front. -/
theorem protectAfter_cases {seen : Text} (unescaped : seen.head? ≠ some '\\') {first : Char}
    (notBackslash : first ≠ '\\') (notBrace : first ≠ '{') (rest : Text) :
    (isDelimiter first = true ∧ protectAfter functionNames variableNames seen (first :: rest) =
        '\\' :: first :: protectAfter functionNames variableNames (first :: seen) rest) ∨
      isPlain first = true ∧ protectAfter functionNames variableNames seen (first :: rest) =
        first :: protectAfter functionNames variableNames (first :: seen) rest := by
  have bare : (seen.head? == some '\\') = false := by simpa using unescaped
  rw [protectAfter.eq_def]
  simp only [bare, Bool.not_false, Bool.and_true, beq_iff_eq, Bool.and_eq_true, notBrace, if_false]
  by_cases colon : first = ':' ∧ Text.followsName functionNames seen = true
  · obtain ⟨rfl, follows⟩ := colon
    simp [follows, isDelimiter]
  · by_cases quote : first = '"'
    · subst quote
      simp [isDelimiter]
    · rw [if_neg colon, if_neg quote]
      exact Or.inr ⟨isPlain_iff.mpr ⟨quote, notBrace, notBackslash⟩, rfl⟩

/-- Protection makes a tame result neutral.

Proof: by recursion over the result, two characters at a time where the first is a backslash.
Every character that protection lets pass is then plain or the second of such a pair, and a
backslash that it adds comes together with a delimiter. -/
theorem protectAfter_neutral {seen text : Text} (tame : Tame text)
    (unescaped : seen.head? ≠ some '\\') :
    Neutral (protectAfter functionNames variableNames seen text) := by
  match text with
  | [] =>
    rw [protectAfter.eq_def]
    exact .nil
  | first :: rest =>
    obtain ⟨notBrace, followed, tameRest⟩ := tame_cons.mp tame
    by_cases backslash : first = '\\'
    · subst backslash
      obtain ⟨second, others, rfl, single⟩ := followed rfl
      obtain ⟨_, _, tameOthers⟩ := tame_cons.mp tameRest
      rw [protectAfter_backslash, protectAfter_escaped]
      exact .escaped single (protectAfter_neutral tameOthers (by simpa using single))
    · have remaining : Neutral (protectAfter functionNames variableNames (first :: seen) rest) :=
        protectAfter_neutral tameRest (by simpa using backslash)
      rcases protectAfter_cases unescaped backslash notBrace rest with
        ⟨_, guarded⟩ | ⟨plain, passed⟩
      · rw [guarded]
        exact .escaped backslash remaining
      · rw [passed]
        exact .plain plain remaining
termination_by text.length

/-- The protected form of a tame result is neutral. -/
theorem Tame.neutral {result : Text} (tame : Tame result) :
    Neutral (protect functionNames variableNames result) :=
  protectAfter_neutral tame (by simp)

end Phrasebook.Template
