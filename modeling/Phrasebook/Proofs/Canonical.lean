import Mathlib.Data.List.Chain
import Phrasebook.Proofs.Reading

/-!
# Canonical arguments

Not every list of pieces can come out of a string that was read. The name of a reference has no
closing brace in it, since the first one ends it, and a run of plain characters is never empty and
is not followed by another, since the reader takes as many as there are. Arguments are told in the
same way; besides, an empty one stands between two colons and so is not the first.

What meets these conditions is canonical. The reader returns canonical arguments only, and what
they are written as is read back as these arguments in front of any text into which the reading
does not go on. Reading and writing are inverse to each other, with one exception: a colon that
introduces nothing is taken along, and no argument records it.
-/

namespace Phrasebook.Template

open Text (following following_eq_ok_iff)

/-- A piece of plain characters only. -/
def Piece.IsRun : Piece → Prop
  | .text content => ∀ character ∈ content, isPlain character = true
  | .reference _ => False

/-- The pieces that the reader of strings returns. -/
inductive Piece.Canonical : Piece → Prop where
  | run (first : Char) (others : Text) (plain : isPlain first = true)
      (unmarked : ∀ character ∈ others, isPlain character = true) :
      Piece.Canonical (.text (first :: others))
  | escape (second : Char) : Piece.Canonical (.text ['\\', second])
  | reference (name : Text) (closed : '}' ∉ name) (unquoted : '"' ∉ name) :
      Piece.Canonical (.reference name)

/-- The strings that the reader returns: canonical pieces, and no two runs side by side. -/
structure CanonicalPieces (pieces : List Piece) : Prop where
  each : ∀ piece ∈ pieces, piece.Canonical
  apart : pieces.IsChain fun piece next => ¬(piece.IsRun ∧ next.IsRun)

/-- The arguments that the reader returns. -/
def Argument.Canonical : Argument → Prop
  | .reference name => '}' ∉ name
  | .quoted pieces => CanonicalPieces pieces
  | .empty => True

/-- The written form of arguments, with colons between them. -/
def writtenArguments (arguments : List Argument) : Text :=
  Text.join [':'] (arguments.map Argument.written)

/-- What is taken of a text behind its arguments: nothing, or a colon that introduces no further
argument. An empty argument is followed by such a colon if it is the last one. -/
inductive Ending (arguments : List Argument) (left : Text) : Text → Prop where
  | bare (present : arguments.getLast? ≠ some .empty) : Ending arguments left []
  | colon (silent : readArgument left = .ok none) : Ending arguments left [':']

variable {pieces : List Piece} {arguments : List Argument} {text left behind : Text}

instance (piece : Piece) : Decidable piece.IsRun :=
  match piece with
  | .text content => decidable_of_iff (content.all isPlain = true) List.all_eq_true
  | .reference _ => .isFalse id

/-- A canonical piece of text is a run that is not empty, or an escape. -/
theorem Piece.canonical_text_iff {content : Text} :
    (Piece.text content).Canonical ↔
      (content ≠ [] ∧ (Piece.text content).IsRun) ∨
        (content.length = 2 ∧ content.head? = some '\\') := by
  constructor
  · intro canonical
    cases canonical with
    | run first others plain unmarked =>
      exact Or.inl ⟨by simp, List.forall_mem_cons.mpr ⟨plain, unmarked⟩⟩
    | escape second => exact Or.inr ⟨rfl, rfl⟩
  · rintro (⟨present, run⟩ | ⟨measured, begins⟩)
    · obtain ⟨first, others, rfl⟩ := List.exists_cons_of_ne_nil present
      obtain ⟨plain, unmarked⟩ := List.forall_mem_cons.mp run
      exact .run first others plain unmarked
    · obtain ⟨first, second, rfl⟩ := List.length_eq_two.mp measured
      obtain rfl : first = '\\' := by simpa using begins
      exact .escape second

/-- A canonical reference has no mark in its name that would end it or the string. -/
theorem Piece.canonical_reference_iff {name : Text} :
    (Piece.reference name).Canonical ↔ '}' ∉ name ∧ '"' ∉ name := by
  constructor
  · intro canonical
    cases canonical with
    | reference _ closed unquoted => exact ⟨closed, unquoted⟩
  · rintro ⟨closed, unquoted⟩
    exact .reference name closed unquoted

instance (piece : Piece) : Decidable piece.Canonical :=
  match piece with
  | .text _ => decidable_of_iff _ Piece.canonical_text_iff.symm
  | .reference _ => decidable_of_iff _ Piece.canonical_reference_iff.symm

instance (pieces : List Piece) : Decidable (CanonicalPieces pieces) :=
  decidable_of_iff ((∀ piece ∈ pieces, piece.Canonical) ∧
      pieces.IsChain fun piece next => ¬(piece.IsRun ∧ next.IsRun))
    ⟨fun parts => ⟨parts.1, parts.2⟩, fun canonical => ⟨canonical.each, canonical.apart⟩⟩

instance (argument : Argument) : Decidable argument.Canonical :=
  match argument with
  | .reference name => inferInstanceAs (Decidable ('}' ∉ name))
  | .quoted pieces => inferInstanceAs (Decidable (CanonicalPieces pieces))
  | .empty => .isTrue trivial

/-- An empty string is canonical. -/
theorem canonicalPieces_nil : CanonicalPieces [] where
  each := by simp
  apart := .nil

/-- A string is canonical if its first piece is, the others are, and the first two are not both
runs. -/
theorem canonicalPieces_cons {piece : Piece} {rest : List Piece} :
    CanonicalPieces (piece :: rest) ↔
      piece.Canonical ∧ (∀ next ∈ rest.head?, ¬(piece.IsRun ∧ next.IsRun)) ∧
        CanonicalPieces rest := by
  constructor
  · rintro ⟨each, apart⟩
    obtain ⟨here, others⟩ := List.forall_mem_cons.mp each
    obtain ⟨seam, chain⟩ := List.isChain_cons.mp apart
    exact ⟨here, seam, others, chain⟩
  · rintro ⟨here, seam, others, chain⟩
    exact ⟨List.forall_mem_cons.mpr ⟨here, others⟩, List.isChain_cons.mpr ⟨seam, chain⟩⟩

/-- Runs are the canonical pieces that begin with a plain character. -/
theorem Piece.Canonical.exists_written {piece : Piece} (canonical : piece.Canonical) :
    ∃ first rest, piece.written = first :: rest ∧ (isPlain first = true ↔ piece.IsRun) := by
  cases canonical with
  | run first others plain unmarked =>
    exact ⟨first, others, rfl, iff_of_true plain (List.forall_mem_cons.mpr ⟨plain, unmarked⟩)⟩
  | escape second =>
    refine ⟨'\\', [second], rfl, iff_of_false (by decide) ?_⟩
    intro run
    exact absurd (run '\\' List.mem_cons_self) (by decide)
  | reference name closed unquoted =>
    exact ⟨'{', name ++ ['}'], rfl, iff_of_false (by decide) id⟩

/-- A plain character begins what a string is written as exactly if a run is its first piece. -/
theorem isPlain_head_iff (each : ∀ piece ∈ pieces, piece.Canonical) (behind : Text) :
    (∃ first ∈ (pieces.flatMap Piece.written ++ '"' :: behind).head?, isPlain first = true) ↔
      ∃ piece ∈ pieces.head?, piece.IsRun := by
  cases pieces with
  | nil => simp [isPlain]
  | cons piece rest =>
    obtain ⟨first, others, written, run⟩ := (each piece List.mem_cons_self).exists_written
    simp [written, run]

/-- The reader of strings returns canonical pieces.

The induction follows the reader. Behind a run the text goes on with a mark, so the next piece is
no run. -/
theorem canonical_of_readPieces (read : readPieces text = .ok (pieces, left)) :
    CanonicalPieces pieces := by
  fun_induction readPieces text generalizing pieces with
  | case1 => simp at read
  | case2 rest =>
    simp only [Except.ok.injEq, Prod.mk.injEq] at read
    rw [← read.1]
    exact canonicalPieces_nil
  | case3 => simp at read
  | case4 second others _ inductionHypothesis =>
    obtain ⟨remaining, inner, rfl⟩ := following_eq_ok_iff.mp read
    have marked : ¬(Piece.text ['\\', second]).IsRun := by
      intro run
      exact absurd (run '\\' List.mem_cons_self) (by decide)
    exact canonicalPieces_cons.mpr
      ⟨.escape second, fun _ _ both => marked both.1, inductionHypothesis inner⟩
  | case5 => simp at read
  | case6 rest name others reference _ _ _ inductionHypothesis =>
    obtain ⟨remaining, inner, rfl⟩ := following_eq_ok_iff.mp read
    obtain ⟨_, closed, unquoted⟩ := readEmbedded?_eq_some_iff.mp reference
    exact canonicalPieces_cons.mpr
      ⟨.reference name closed unquoted, fun _ _ both => both.1, inductionHypothesis inner⟩
  | case7 first rest notQuote notBackslash notBrace _ inductionHypothesis =>
    obtain ⟨remaining, inner, rfl⟩ := following_eq_ok_iff.mp read
    have later := inductionHypothesis inner
    have plain : isPlain first = true := isPlain_iff.mpr ⟨notQuote, notBrace, notBackslash⟩
    have unmarked : ∀ character ∈ rest.takeWhile isPlain, isPlain character = true :=
      fun _ member => List.all_eq_true.mp List.all_takeWhile _ member
    have ended := List.head?_dropWhile_not isPlain rest
    refine canonicalPieces_cons.mpr ⟨.run first _ plain unmarked, ?_, later⟩
    rintro next member ⟨_, run⟩
    obtain ⟨mark, begins, continued⟩ := (isPlain_head_iff later.each left).mpr ⟨next, member, run⟩
    rw [← eq_append_of_readPieces inner] at begins
    simp [Option.mem_def.mp begins, continued] at ended

/-- A run of plain characters is read as one piece, up to the first other character. -/
theorem readPieces_run {first : Char} {run rest : Text} (plain : isPlain first = true)
    (unmarked : ∀ character ∈ run, isPlain character = true)
    (stops : ∀ next ∈ rest.head?, isPlain next = false) :
    readPieces (first :: (run ++ rest)) = following (.text (first :: run)) (readPieces rest) := by
  have silent : rest.takeWhile isPlain = [] ∧ rest.dropWhile isPlain = rest := by
    cases rest with
    | nil => exact ⟨rfl, rfl⟩
    | cons next others => simp [stops next rfl]
  rw [readPieces_plain plain, List.takeWhile_append_of_pos unmarked,
    List.dropWhile_append_of_pos unmarked, silent.1, silent.2, List.append_nil]

/-- Canonical pieces are read back, up to the quote behind them. -/
theorem readPieces_of_canonical (canonical : CanonicalPieces pieces) (behind : Text) :
    readPieces (pieces.flatMap Piece.written ++ '"' :: behind) = .ok (pieces, behind) := by
  induction pieces with
  | nil => exact readPieces_quote behind
  | cons piece rest inductionHypothesis =>
    obtain ⟨here, seam, others⟩ := canonicalPieces_cons.mp canonical
    have later := inductionHypothesis others
    rw [List.flatMap_cons, List.append_assoc]
    cases here with
    | run first run plain unmarked =>
      have itself : (Piece.text (first :: run)).IsRun :=
        List.forall_mem_cons.mpr ⟨plain, unmarked⟩
      have stops : ∀ next ∈ (rest.flatMap Piece.written ++ '"' :: behind).head?,
          isPlain next = false := by
        intro next begins
        refine Bool.eq_false_iff.mpr fun continued => ?_
        obtain ⟨piece, member, run⟩ :=
          (isPlain_head_iff others.each behind).mp ⟨next, begins, continued⟩
        exact seam piece member ⟨itself, run⟩
      rw [Piece.written, List.cons_append, readPieces_run plain unmarked stops, later]
      rfl
    | escape second =>
      rw [Piece.written, List.cons_append, List.singleton_append, readPieces_backslash, later]
      rfl
    | reference name closed unquoted =>
      have embedded : readEmbedded? (name ++ '}' :: (rest.flatMap Piece.written ++ '"' :: behind)) =
          some (name, rest.flatMap Piece.written ++ '"' :: behind) :=
        readEmbedded?_eq_some_iff.mpr ⟨rfl, closed, unquoted⟩
      rw [Piece.written, List.append_assoc, List.cons_append, List.singleton_append,
        readPieces_brace embedded, later]
      rfl

/-- The reader of strings returns the canonical pieces that its text is written from. -/
theorem readPieces_eq_ok_iff :
    readPieces text = .ok (pieces, left) ↔
      CanonicalPieces pieces ∧ text = pieces.flatMap Piece.written ++ '"' :: left := by
  constructor
  · intro read
    exact ⟨canonical_of_readPieces read, eq_append_of_readPieces read⟩
  · rintro ⟨canonical, rfl⟩
    exact readPieces_of_canonical canonical left

/-- The reader of arguments returns the canonical argument that begins its text, unless that is
empty. -/
theorem readArgument_eq_ok_iff {argument : Argument} :
    readArgument text = .ok (some (argument, left)) ↔
      argument ≠ .empty ∧ argument.Canonical ∧ text = argument.written ++ left := by
  constructor
  · intro read
    have whole := eq_append_of_readArgument read
    unfold readArgument at read
    split at read
    · split at read
      · simp at read
      · rename_i pieces remaining inner
        simp only [Except.ok.injEq, Option.some.injEq, Prod.mk.injEq] at read
        obtain ⟨rfl, rfl⟩ := read
        exact ⟨by simp, canonical_of_readPieces inner, whole⟩
    · split at read
      · simp at read
      · rename_i name remaining broken
        simp only [Except.ok.injEq, Option.some.injEq, Prod.mk.injEq] at read
        obtain ⟨rfl, rfl⟩ := read
        exact ⟨by simp, (Text.breakAt?_eq_some_iff.mp broken).2, whole⟩
    · simp at read
  · rintro ⟨present, canonical, rfl⟩
    cases argument with
    | reference name =>
      have broken : Text.breakAt? '}' (name ++ '}' :: left) = some (name, left) :=
        Text.breakAt?_eq_some_iff.mpr ⟨rfl, canonical⟩
      simp [Argument.written, readArgument, broken]
    | quoted pieces =>
      simp [Argument.written, readArgument, readPieces_of_canonical canonical]
    | empty => exact absurd rfl present

/-- The reader of arguments finds none exactly if none begins the text, and, except at the start of
a call, no separator does. -/
theorem readArguments_eq_nil_iff {first : Bool} :
    readArguments first text = .ok ([], left) ↔
      left = text ∧ readArgument text = .ok none ∧ (first = false → text.head? ≠ some ':') := by
  constructor
  · fun_cases readArguments first text with
    | case1 rest initial =>
      intro read
      simp only [Except.ok.injEq, Prod.mk.injEq, true_and] at read
      exact ⟨read.symm, rfl, fun later => absurd initial (by simp [later])⟩
    | case2 rest =>
      intro read
      obtain ⟨others, _, impossible⟩ := following_eq_ok_iff.mp read
      simp at impossible
    | case3 => simp
    | case4 _ notColon silent =>
      intro read
      simp only [Except.ok.injEq, Prod.mk.injEq, true_and] at read
      exact ⟨read.symm, silent, fun _ => Text.head?_ne_of_ne_cons notColon⟩
    | case5 =>
      intro read
      obtain ⟨others, _, impossible⟩ := following_eq_ok_iff.mp read
      simp at impossible
    | case6 => simp
  · rintro ⟨rfl, silent, separated⟩
    by_cases colon : left.head? = some ':'
    · obtain ⟨rest, rfl⟩ := List.head?_eq_some_iff.mp colon
      have initial : first = true := by simpa using separated
      rw [readArguments.eq_def]
      simp [initial]
    · exact readArguments_none colon silent

/-- The reader of arguments takes one argument at a time: the last one, or one in front of a
separator. Only behind a separator may the argument be empty. -/
theorem readArguments_eq_cons_iff {first : Bool} {argument : Argument} :
    readArguments first text = .ok (argument :: arguments, left) ↔
      argument.Canonical ∧ (first = true → argument ≠ .empty) ∧
        ((argument ≠ .empty ∧ arguments = [] ∧ text = argument.written ++ left ∧
            left.head? ≠ some ':') ∨
          ∃ behind, text = argument.written ++ ':' :: behind ∧
            readArguments false behind = .ok (arguments, left)) := by
  constructor
  · fun_cases readArguments first text with
    | case1 => simp
    | case2 rest notFirst =>
      intro read
      obtain ⟨others, inner, same⟩ := following_eq_ok_iff.mp read
      obtain ⟨rfl, rfl⟩ := List.cons.inj same
      exact ⟨trivial, fun initial => absurd initial notFirst, Or.inr ⟨rest, rfl, inner⟩⟩
    | case3 => simp
    | case4 => simp
    | case5 _ _ taken rest here =>
      intro read
      obtain ⟨others, inner, same⟩ := following_eq_ok_iff.mp read
      obtain ⟨rfl, rfl⟩ := List.cons.inj same
      obtain ⟨present, canonical, whole⟩ := readArgument_eq_ok_iff.mp here
      exact ⟨canonical, fun _ => present, Or.inr ⟨rest, whole, inner⟩⟩
    | case6 _ _ taken remaining different here =>
      intro read
      simp only [Except.ok.injEq, Prod.mk.injEq, List.cons.injEq] at read
      obtain ⟨⟨rfl, rfl⟩, rfl⟩ := read
      obtain ⟨present, canonical, whole⟩ := readArgument_eq_ok_iff.mp here
      exact ⟨canonical, fun _ => present,
        Or.inl ⟨present, rfl, whole, Text.head?_ne_of_ne_cons different⟩⟩
  · rintro ⟨canonical, separated, ⟨present, rfl, rfl, ended⟩ | ⟨behind, rfl, inner⟩⟩
    · exact readArguments_last (readArgument_eq_ok_iff.mpr ⟨present, canonical, rfl⟩) ended
    · by_cases empty : argument = .empty
      · have later : first = false := by simpa using mt separated (not_not_intro empty)
        subst empty later
        exact (readArguments_separator behind).trans (by rw [inner]; rfl)
      · rw [readArguments_more (readArgument_eq_ok_iff.mpr ⟨empty, canonical, rfl⟩), inner]
        rfl

/-- A single argument is written without colons. -/
theorem writtenArguments_singleton (argument : Argument) :
    writtenArguments [argument] = argument.written :=
  List.append_nil _

/-- Between two arguments stands a colon. -/
theorem writtenArguments_cons_cons (argument second : Argument) (others : List Argument) :
    writtenArguments (argument :: second :: others) =
      argument.written ++ ':' :: writtenArguments (second :: others) := by
  simp [writtenArguments, Text.join, List.intercalate_cons_cons]

/-- How arguments end depends on the last one. -/
theorem ending_cons_cons_iff {argument second : Argument} {others : List Argument} {extra : Text} :
    Ending (argument :: second :: others) left extra ↔ Ending (second :: others) left extra := by
  constructor
  · rintro (present | silent)
    · exact .bare (by simpa using present)
    · exact .colon silent
  · rintro (present | silent)
    · exact .bare (by simpa using present)
    · exact .colon silent

/-- A single argument is followed by nothing of its call, or by a colon that introduces nothing. -/
theorem readArguments_eq_singleton_iff {first : Bool} {argument : Argument} :
    readArguments first text = .ok ([argument], left) ↔
      argument.Canonical ∧ (first = true → argument ≠ .empty) ∧ left.head? ≠ some ':' ∧
        ∃ extra, Ending [argument] left extra ∧ text = argument.written ++ extra ++ left := by
  rw [readArguments_eq_cons_iff]
  constructor
  · rintro ⟨canonical, separated, ⟨present, _, rfl, ended⟩ | ⟨behind, rfl, inner⟩⟩
    · exact ⟨canonical, separated, ended, [], .bare (by simpa using present), by simp⟩
    · obtain ⟨rfl, silent, ended⟩ := readArguments_eq_nil_iff.mp inner
      exact ⟨canonical, separated, ended rfl, [':'], .colon silent, by simp⟩
  · rintro ⟨canonical, separated, ended, extra, ending, rfl⟩
    refine ⟨canonical, separated, ?_⟩
    cases ending with
    | bare present => exact Or.inl ⟨by simpa using present, rfl, by simp, ended⟩
    | colon silent =>
      have remaining : readArguments false left = .ok ([], left) :=
        readArguments_eq_nil_iff.mpr ⟨rfl, silent, fun _ => ended⟩
      exact Or.inr ⟨left, by simp, remaining⟩

/-- The reader of arguments, where it finds any, returns the canonical ones that its text is written
from, up to a colon that may follow them. It leaves no colon.

Proof: by induction on the arguments. The colon behind the last one is what the reader leaves no
argument behind. -/
theorem readArguments_eq_ok_iff {first : Bool} (found : arguments ≠ []) :
    readArguments first text = .ok (arguments, left) ↔
      (∀ argument ∈ arguments, argument.Canonical) ∧
        (first = true → arguments.head? ≠ some .empty) ∧ left.head? ≠ some ':' ∧
        ∃ extra, Ending arguments left extra ∧
          text = writtenArguments arguments ++ extra ++ left := by
  induction arguments generalizing first text with
  | nil => exact absurd rfl found
  | cons argument rest inductionHypothesis =>
    cases rest with
    | nil =>
      rw [readArguments_eq_singleton_iff, writtenArguments_singleton]
      simp
    | cons second others =>
      have present : second :: others ≠ [] := List.cons_ne_nil second others
      rw [readArguments_eq_cons_iff]
      constructor
      · rintro ⟨canonical, separated, ⟨_, impossible, _⟩ | ⟨behind, rfl, inner⟩⟩
        · exact absurd impossible present
        · obtain ⟨each, _, ended, extra, ending, rfl⟩ := (inductionHypothesis present).mp inner
          refine ⟨List.forall_mem_cons.mpr ⟨canonical, each⟩, by simpa using separated, ended,
            extra, ending_cons_cons_iff.mpr ending, ?_⟩
          simp [writtenArguments_cons_cons]
      · rintro ⟨each, separated, ended, extra, ending, rfl⟩
        obtain ⟨canonical, remaining⟩ := List.forall_mem_cons.mp each
        have inner : readArguments false (writtenArguments (second :: others) ++ extra ++ left) =
            .ok (second :: others, left) :=
          (inductionHypothesis present).mpr
            ⟨remaining, by simp, ended, extra, ending_cons_cons_iff.mp ending, rfl⟩
        refine ⟨canonical, by simpa using separated, Or.inr ⟨_, ?_, inner⟩⟩
        simp [writtenArguments_cons_cons]

end Phrasebook.Template
