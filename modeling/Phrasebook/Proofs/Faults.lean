import Phrasebook.Proofs.Canonical
import Phrasebook.Proofs.Resolution

/-!
# The faults of calls

Three things can be wrong with a call. No colon ends its name; or an argument opens with a brace
that is not closed; or one opens with a quote, and its pieces come to an embedded brace that is not
closed before the next quote, or to the end of the text. All arguments before such an opening are
complete, and each of them is followed by a colon.

This is said here of the text alone, by how it is put together, and without the readers. A reading
fails exactly on such texts, and with the fault that belongs to the opening. As a reading has one
outcome, no text opens two faults: what is malformed is malformed in one way and at one place.
-/

namespace Phrasebook.Template

open Text (following following_eq_ok_iff following_eq_error_iff)

/-- No colon in the second part of a text is free of a backslash before it. -/
def NoSeparator (before after : Text) : Prop :=
  ∀ front back, after = front ++ ':' :: back → (before ++ front).getLast? = some '\\'

/-- A name that a colon behind it ends, because no backslash precedes this colon, and one precedes
each colon inside the name. The text before the name matters for a colon at its start. -/
structure Separates (before name : Text) : Prop where
  bare : (before ++ name).getLast? ≠ some '\\'
  first : NoSeparator before name

/-- Where the pieces of a string end without a closing quote, and what they leave open: the string,
at the end of the text or in front of a last backslash, or a reference that no brace closes before
the next quote. -/
inductive Stops : Text → Unclosed → Prop where
  | ended : Stops [] .string
  | backslash : Stops ['\\'] .string
  | brace (rest : Text) (absent : '}' ∉ rest.takeWhile (· != '"')) : Stops ('{' :: rest) .reference

/-- What an argument at the start of a text opens and does not close. -/
inductive LeavesOpen : Text → Unclosed → Prop where
  | reference (rest : Text) (absent : '}' ∉ rest) : LeavesOpen ('{' :: rest) .reference
  | string (pieces : List Piece) (rest : Text) (unclosed : Unclosed)
      (canonical : ∀ piece ∈ pieces, piece.Canonical) (stops : Stops rest unclosed) :
      LeavesOpen ('"' :: (pieces.flatMap Piece.written ++ rest)) unclosed

/-- Arguments as they stand before further ones, each with the colon behind it. -/
def passedText (arguments : List Argument) : Text :=
  arguments.flatMap fun argument => argument.written ++ [':']

/-- The fault of the call that should begin between two parts of a text: its name has no end, or
behind complete arguments one is left open. -/
inductive Malformed (before after : Text) : Fault → Prop where
  | separator (missing : NoSeparator before after) :
      Malformed before after (.missingSeparator (Text.width before))
  | argument (name : Text) (arguments : List Argument) (opening : Text) (unclosed : Unclosed)
      (whole : after = name ++ ':' :: (passedText arguments ++ opening))
      (separates : Separates before name)
      (complete : ∀ argument ∈ arguments, argument.Canonical)
      (begins : arguments.head? ≠ some .empty)
      (leavesOpen : LeavesOpen opening unclosed) :
      Malformed before after
        (unclosed.fault name (Text.width (before ++ name ++ ':' :: passedText arguments)))

variable {before after name text opening : Text} {unclosed : Unclosed}

/-- Whether a colon is preceded by a backslash is seen from the text before it. -/
theorem noSeparator_cons {first : Char} {rest : Text} :
    NoSeparator before (first :: rest) ↔
      (first = ':' → before.getLast? = some '\\') ∧ NoSeparator (before ++ [first]) rest := by
  constructor
  · intro escaped
    refine ⟨fun colon => ?_, fun front back whole => ?_⟩
    · simpa using escaped [] rest (by simp [colon])
    · simpa using escaped (first :: front) back (by simp [whole])
  · rintro ⟨here, later⟩ front back whole
    cases front with
    | nil =>
      obtain ⟨rfl, rfl⟩ := List.cons.inj whole
      simpa using here rfl
    | cons head others =>
      obtain ⟨rfl, rfl⟩ := List.cons.inj whole
      simpa using later others back rfl

/-- A further character tells whether the next one is escaped. -/
theorem beq_getLast?_append_singleton (before : Text) (first : Char) :
    ((before ++ [first]).getLast? == some '\\') = (first == '\\') := by
  simp

/-- A name is read unless every colon is escaped. -/
theorem readName?_eq_none_iff :
    readName? (before.getLast? == some '\\') after = none ↔ NoSeparator before after := by
  induction after generalizing before with
  | nil => simp [readName?, NoSeparator]
  | cons first rest inductionHypothesis =>
    rw [noSeparator_cons, ← inductionHypothesis, beq_getLast?_append_singleton, readName?]
    by_cases bare : before.getLast? = some '\\'
    · simp [bare]
    · by_cases colon : first = ':'
      · simp [bare, colon]
      · simp [bare, colon]

/-- An empty name is ended by the colon at its place. -/
theorem separates_nil : Separates before [] ↔ before.getLast? ≠ some '\\' := by
  constructor
  · intro separates
    simpa using separates.bare
  · intro bare
    exact ⟨by simpa using bare, fun front back whole => by simp at whole⟩

/-- Whether a colon ends a name is seen character by character. -/
theorem separates_cons {first : Char} {rest : Text} :
    Separates before (first :: rest) ↔
      (first = ':' → before.getLast? = some '\\') ∧ Separates (before ++ [first]) rest := by
  constructor
  · rintro ⟨bare, escaped⟩
    obtain ⟨here, later⟩ := noSeparator_cons.mp escaped
    exact ⟨here, by simpa using bare, later⟩
  · rintro ⟨here, bare, later⟩
    exact ⟨by simpa using bare, noSeparator_cons.mpr ⟨here, later⟩⟩

/-- A name in front of a colon is read up to there exactly if this colon ends it. -/
theorem readName?_append_iff {written : Text} :
    readName? (before.getLast? == some '\\') (name ++ ':' :: written) = some (name, written) ↔
      Separates before name := by
  induction name generalizing before with
  | nil =>
    rw [separates_nil]
    by_cases escaped : before.getLast? = some '\\'
    · simp [readName?, escaped]
    · simp [readName?, escaped]
  | cons first rest inductionHypothesis =>
    rw [separates_cons, ← inductionHypothesis, beq_getLast?_append_singleton, List.cons_append,
      readName?]
    by_cases escaped : before.getLast? = some '\\'
    · simp [escaped]
    · by_cases colon : first = ':'
      · simp [escaped, colon]
      · simp [escaped, colon]

/-- The name of a call ends at the first colon that is not escaped. -/
theorem readName?_eq_some_iff {written : Text} :
    readName? (before.getLast? == some '\\') after = some (name, written) ↔
      after = name ++ ':' :: written ∧ Separates before name := by
  constructor
  · intro read
    obtain rfl := eq_append_of_readName? read
    exact ⟨rfl, readName?_append_iff.mp read⟩
  · rintro ⟨rfl, separates⟩
    exact readName?_append_iff.mpr separates

/-- A reference inside a string is read exactly if a brace closes it before the next quote. -/
theorem readEmbedded?_eq_none_iff :
    readEmbedded? text = none ↔ '}' ∉ text.takeWhile (· != '"') := by
  constructor
  · intro unread member
    obtain ⟨name, others, split, closed⟩ := List.eq_append_cons_of_mem member
    have unquoted : '"' ∉ name := by
      intro quote
      have inside : '"' ∈ text.takeWhile (· != '"') := by simp [split, quote]
      simpa using List.all_eq_true.mp List.all_takeWhile _ inside
    have whole : text = name ++ '}' :: (others ++ text.dropWhile (· != '"')) := by
      conv_lhs => rw [← List.takeWhile_append_dropWhile (p := (· != '"')) (l := text), split]
      simp
    rw [readEmbedded?_eq_some_iff.mpr ⟨whole, closed, unquoted⟩] at unread
    simp at unread
  · intro absent
    refine Option.eq_none_iff_forall_ne_some.mpr fun ⟨name, others⟩ read => absent ?_
    obtain ⟨rfl, _, unquoted⟩ := readEmbedded?_eq_some_iff.mp read
    have passed : ∀ character ∈ name, (character != '"') = true := by
      intro character member
      simpa using fun same : character = '"' => unquoted (same ▸ member)
    rw [List.takeWhile_append_of_pos passed]
    simp

/-- A plain character neither closes a string nor leaves anything open in it. -/
theorem readPieces_plain_eq_error_iff {first : Char} (plain : isPlain first = true) :
    readPieces (first :: text) = .error unclosed ↔ readPieces text = .error unclosed := by
  rw [readPieces_plain plain, following_eq_error_iff]
  cases text with
  | nil => rfl
  | cons second rest =>
    by_cases more : isPlain second = true
    · rw [readPieces_plain more, following_eq_error_iff, List.dropWhile_cons_of_pos more]
    · rw [List.dropWhile_cons_of_neg more]

/-- Nor does a canonical piece. -/
theorem readPieces_written_eq_error_iff {piece : Piece} (canonical : piece.Canonical) :
    readPieces (piece.written ++ text) = .error unclosed ↔ readPieces text = .error unclosed := by
  cases canonical with
  | run first others plain unmarked =>
    rw [Piece.written, List.cons_append, readPieces_plain_eq_error_iff plain]
    induction others with
    | nil => rfl
    | cons second rest inductionHypothesis =>
      obtain ⟨here, later⟩ := List.forall_mem_cons.mp unmarked
      rw [List.cons_append, readPieces_plain_eq_error_iff here, inductionHypothesis later]
  | escape second =>
    rw [Piece.written, List.cons_append, List.singleton_append, readPieces_backslash,
      following_eq_error_iff]
  | reference name closed unquoted =>
    have embedded : readEmbedded? (name ++ '}' :: text) = some (name, text) :=
      readEmbedded?_eq_some_iff.mpr ⟨rfl, closed, unquoted⟩
    rw [Piece.written, List.cons_append, List.cons_append, List.append_assoc, List.singleton_append,
      readPieces_brace embedded, following_eq_error_iff]

/-- Where the pieces of a string stop, the reader of strings fails. -/
theorem Stops.readPieces (stops : Stops text unclosed) : readPieces text = .error unclosed := by
  rw [readPieces.eq_def]
  cases stops with
  | ended => rfl
  | backslash => rfl
  | brace rest absent =>
    simp only [Char.reduceEq, if_false, if_true]
    split
    · rfl
    · rename_i read
      rw [readEmbedded?_eq_none_iff.mpr absent] at read
      simp at read

/-- The reader of strings fails where the pieces stop without a closing quote.

The induction from left to right follows the reader, the one from right to left the pieces. -/
theorem readPieces_eq_error_iff :
    readPieces text = .error unclosed ↔
      ∃ (pieces : List Piece) (rest : Text), (∀ piece ∈ pieces, piece.Canonical) ∧
        text = pieces.flatMap Piece.written ++ rest ∧ Stops rest unclosed := by
  constructor
  · intro read
    fun_induction readPieces text with
    | case1 =>
      obtain rfl := Except.error.inj read
      exact ⟨[], [], by simp, rfl, .ended⟩
    | case2 => simp at read
    | case3 =>
      obtain rfl := Except.error.inj read
      exact ⟨[], ['\\'], by simp, rfl, .backslash⟩
    | case4 second others _ inductionHypothesis =>
      obtain ⟨pieces, rest, canonical, rfl, stops⟩ :=
        inductionHypothesis (following_eq_error_iff.mp read)
      exact ⟨.text ['\\', second] :: pieces, rest,
        List.forall_mem_cons.mpr ⟨.escape second, canonical⟩, rfl, stops⟩
    | case5 rest unread =>
      obtain rfl := Except.error.inj read
      exact ⟨[], '{' :: rest, by simp, rfl, .brace rest (readEmbedded?_eq_none_iff.mp unread)⟩
    | case6 rest name others embedded _ _ _ inductionHypothesis =>
      obtain ⟨rfl, closed, unquoted⟩ := readEmbedded?_eq_some_iff.mp embedded
      obtain ⟨pieces, rest, canonical, rfl, stops⟩ :=
        inductionHypothesis (following_eq_error_iff.mp read)
      refine ⟨.reference name :: pieces, rest,
        List.forall_mem_cons.mpr ⟨.reference name closed unquoted, canonical⟩, ?_, stops⟩
      simp [Piece.written]
    | case7 first rest notQuote notBackslash notBrace _ inductionHypothesis =>
      obtain ⟨pieces, remaining, canonical, split, stops⟩ :=
        inductionHypothesis (following_eq_error_iff.mp read)
      -- plain characters in a row are read as one piece
      have run : (Piece.text (first :: rest.takeWhile isPlain)).Canonical :=
        .run first _ (isPlain_iff.mpr ⟨notQuote, notBrace, notBackslash⟩)
          (List.all_eq_true.mp List.all_takeWhile)
      refine ⟨.text (first :: rest.takeWhile isPlain) :: pieces, remaining,
        List.forall_mem_cons.mpr ⟨run, canonical⟩, ?_, stops⟩
      rw [List.flatMap_cons, List.append_assoc, ← split, Piece.written, List.cons_append,
        List.takeWhile_append_dropWhile]
  · rintro ⟨pieces, rest, canonical, rfl, stops⟩
    induction pieces with
    | nil => exact stops.readPieces
    | cons piece others inductionHypothesis =>
      obtain ⟨here, later⟩ := List.forall_mem_cons.mp canonical
      rw [List.flatMap_cons, List.append_assoc, readPieces_written_eq_error_iff here]
      exact inductionHypothesis later

/-- The reader of an argument fails exactly if the argument leaves something open. -/
theorem readArgument_eq_error_iff :
    readArgument text = .error unclosed ↔ LeavesOpen text unclosed := by
  constructor
  · intro read
    unfold readArgument at read
    split at read
    · rename_i rest
      split at read
      · rename_i cause failed
        obtain rfl := Except.error.inj read
        obtain ⟨pieces, rest, canonical, rfl, stops⟩ := readPieces_eq_error_iff.mp failed
        exact .string pieces rest cause canonical stops
      · simp at read
    · rename_i rest
      split at read
      · rename_i unbroken
        obtain rfl := Except.error.inj read
        exact .reference rest (Text.breakAt?_eq_none_iff.mp unbroken)
      · simp at read
    · simp at read
  · intro leavesOpen
    cases leavesOpen with
    | reference rest absent => simp [readArgument, Text.breakAt?_eq_none_iff.mpr absent]
    | string pieces rest _ canonical stops =>
      have failed := readPieces_eq_error_iff.mpr ⟨pieces, rest, canonical, rfl, stops⟩
      simp [readArgument, failed]

/-- The reader of arguments fails at the first argument that leaves something open: all arguments
before it are complete and followed by a colon.

The induction from left to right follows the reader, the one from right to left the arguments. -/
theorem readArguments_eq_error_iff {first : Bool} :
    readArguments first text = .error (unclosed, opening) ↔
      ∃ arguments : List Argument, (∀ argument ∈ arguments, argument.Canonical) ∧
        (first = true → arguments.head? ≠ some .empty) ∧
        text = passedText arguments ++ opening ∧ LeavesOpen opening unclosed := by
  constructor
  · intro read
    fun_induction readArguments first text with
    | case1 => simp at read
    | case2 first rest notFirst inductionHypothesis =>
      obtain ⟨arguments, complete, _, rfl, leavesOpen⟩ :=
        inductionHypothesis (following_eq_error_iff.mp read)
      exact ⟨.empty :: arguments, List.forall_mem_cons.mpr ⟨trivial, complete⟩,
        fun initial => absurd initial notFirst, rfl, leavesOpen⟩
    | case3 first text _ cause failed =>
      obtain ⟨rfl, rfl⟩ := Prod.mk.inj (Except.error.inj read)
      exact ⟨[], by simp, by simp, rfl, readArgument_eq_error_iff.mp failed⟩
    | case4 => simp at read
    | case5 first text _ argument rest here _ inductionHypothesis =>
      obtain ⟨present, canonical, rfl⟩ := readArgument_eq_ok_iff.mp here
      obtain ⟨arguments, complete, _, rfl, leavesOpen⟩ :=
        inductionHypothesis (following_eq_error_iff.mp read)
      refine ⟨argument :: arguments, List.forall_mem_cons.mpr ⟨canonical, complete⟩,
        fun _ => by simpa using present, ?_, leavesOpen⟩
      simp [passedText]
    | case6 => simp at read
  · rintro ⟨arguments, complete, begins, rfl, leavesOpen⟩
    induction arguments generalizing first with
    | nil => exact readArguments_unclosed (readArgument_eq_error_iff.mpr leavesOpen)
    | cons argument others inductionHypothesis =>
      obtain ⟨canonical, later⟩ := List.forall_mem_cons.mp complete
      have remaining :
          readArguments false (passedText others ++ opening) = .error (unclosed, opening) :=
        inductionHypothesis later (by simp)
      have split : passedText (argument :: others) ++ opening =
          argument.written ++ ':' :: (passedText others ++ opening) := by simp [passedText]
      rw [split]
      -- an empty argument is read only behind another one: in first place it ends the reading
      by_cases empty : argument = .empty
      · subst empty
        have notFirst : first = false := by simpa using begins
        subst notFirst
        exact (readArguments_separator _).trans (following_eq_error_iff.mpr remaining)
      · rw [readArguments_more (readArgument_eq_ok_iff.mpr ⟨empty, canonical, rfl⟩)]
        exact following_eq_error_iff.mpr remaining

variable {fault : Fault}

/-- A malformed call is read as its fault. -/
theorem Malformed.read? (malformed : Malformed before after fault) :
    Call.read? (before ++ after) (Text.width before) = some (.error fault) := by
  cases malformed with
  | separator missing =>
    rw [read?_append, Call.readHere, readName?_eq_none_iff.mpr missing]
  | argument name arguments opening unclosed whole separates complete begins leavesOpen =>
    have named := readName?_eq_some_iff.mpr ⟨whole, separates⟩
    have broken : readArguments true (passedText arguments ++ opening) =
        .error (unclosed, opening) :=
      readArguments_eq_error_iff.mpr ⟨arguments, complete, fun _ => begins, rfl, leavesOpen⟩
    exact read?_eq_error named broken

/-- What is read as a fault is malformed. -/
theorem malformed_of_read?
    (read : Call.read? (before ++ after) (Text.width before) = some (.error fault)) :
    Malformed before after fault := by
  cases named : readName? (before.getLast? == some '\\') after with
  | none =>
    simp only [read?_append, Call.readHere, named, Option.some.injEq, Except.error.injEq] at read
    subst read
    exact .separator (readName?_eq_none_iff.mp named)
  | some parts =>
    obtain ⟨name, written⟩ := parts
    obtain ⟨whole, separates⟩ := readName?_eq_some_iff.mp named
    cases complete : readArguments true written with
    | ok reading => simp [read?_append, Call.readHere, named, complete] at read
    | error failure =>
      obtain ⟨unclosed, opening⟩ := failure
      obtain ⟨arguments, canonical, begins, rfl, leavesOpen⟩ :=
        readArguments_eq_error_iff.mp complete
      rw [read?_eq_error named complete] at read
      obtain rfl := Except.error.inj (Option.some.inj read)
      exact .argument name arguments opening unclosed whole separates canonical (begins rfl)
        leavesOpen

/-- At the place between two parts of a text, a call is at fault exactly if the text is malformed
there, and the fault is the one of the malformed form. Where nothing is malformed, a call is read.

Proof: the name is read unless every colon is escaped, and the arguments behind it are read up to
the first one that leaves something open. -/
theorem read?_fault_iff (before after : Text) :
    (∀ fault, Call.read? (before ++ after) (Text.width before) = some (.error fault) ↔
        Malformed before after fault) ∧
      ((∃ call, Call.read? (before ++ after) (Text.width before) = some (.ok call)) ↔
        ∀ fault, ¬Malformed before after fault) := by
  refine ⟨fun fault => ⟨malformed_of_read?, Malformed.read?⟩, ?_, ?_⟩
  · rintro ⟨call, read⟩ fault malformed
    rw [malformed.read?] at read
    simp at read
  · intro wellFormed
    cases here : Call.readHere (Text.width before) (before.getLast? == some '\\') after with
    | ok call => exact ⟨call, by rw [read?_append, here]⟩
    | error fault =>
      have read : Call.read? (before ++ after) (Text.width before) = some (.error fault) := by
        rw [read?_append, here]
      exact absurd (malformed_of_read? read) (wellFormed fault)

/-- A brace that is not closed before the next quote decides, although no quote closes the string
either; the fault is placed at the opening of the second argument. -/
example : Call.read? ['f', ':', '{', 'x', '}', ':', '"', 'a', '{', 'b', '"', '}', '\\'] 0 =
    some (.error (.unterminatedVariable ['f'] 6)) := by
  decide +kernel

end Phrasebook.Template
