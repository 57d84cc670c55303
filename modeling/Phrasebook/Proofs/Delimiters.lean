import Phrasebook.Proofs.Locality
import Phrasebook.Template.Escape

/-!
# Which delimiters of a call are escaped

A call that was read has delimiters: the quotes around its strings, the quotes inside them, and
the braces that open its references. The reader of strings took backslashes in pairs with the
character behind them. The rest of the library looks at the single character before a delimiter,
and takes a backslash there for an escape.

Here every delimiter of a call is listed with its offset, and it is shown to stand there. Both
rules agree on a quote inside a string, which they take for escaped, and on whatever opens an
argument, which follows a colon. They disagree on the end of a string, and on a brace inside one,
if a pair of backslashes stands directly before it: the reader has used up both.
-/

namespace Phrasebook.Template

/-- What a delimiter does in a call. -/
inductive Role where
  /-- The quote that opens a string. -/
  | stringStart
  /-- The quote that closes a string. -/
  | stringEnd
  /-- A quote inside a string. -/
  | innerQuote
  /-- The brace that opens an argument. -/
  | reference
  /-- A brace that opens a reference inside a string. -/
  | embedded
deriving DecidableEq

/-- The character that has a role. -/
def Role.character : Role → Char
  | .stringStart | .stringEnd | .innerQuote => '"'
  | .reference | .embedded => '{'

/-- A delimiter of a call at its byte offset. Whether a backslash stands directly before it is told
by the parts of the call. -/
structure Delimiter where
  offset : Nat
  role : Role
  behindBackslash : Bool
deriving DecidableEq

/-- The quotes in a part of a string that begins at an offset. Such a quote is the second
character of a pair, and the first one is a backslash. -/
def innerQuotes (offset : Nat) : Text → List Delimiter
  | [] => []
  | first :: rest =>
    (if first = '"' then [⟨offset, .innerQuote, true⟩] else []) ++
      innerQuotes (offset + first.utf8Size) rest

/-- The delimiters of a string behind its opening quote, up to the closing one. `paired` says
whether a pair of backslashes stands directly before the offset. -/
def stringDelimiters (paired : Bool) (offset : Nat) : List Piece → List Delimiter
  | [] => [⟨offset, .stringEnd, paired⟩]
  | .text content :: rest =>
    innerQuotes offset content ++
      stringDelimiters (content == ['\\', '\\']) (offset + Text.width content) rest
  | .reference name :: rest =>
    ⟨offset, .embedded, paired⟩ :: innerQuotes (offset + 1) name ++
      stringDelimiters false (offset + Text.width (Piece.reference name).written) rest

/-- The delimiters of an argument that begins at an offset. -/
def Argument.delimiters (offset : Nat) : Argument → List Delimiter
  | .reference _ => [⟨offset, .reference, false⟩]
  | .quoted pieces => ⟨offset, .stringStart, false⟩ :: stringDelimiters false (offset + 1) pieces
  | .empty => []

/-- The delimiters of arguments of which the first begins at an offset. A colon stands between
each and the next. -/
def argumentDelimiters (offset : Nat) : List Argument → List Delimiter
  | [] => []
  | argument :: rest =>
    argument.delimiters offset ++
      argumentDelimiters (offset + Text.width argument.written + 1) rest

/-- The delimiters of a call. -/
def Call.delimiters (call : Call) : List Delimiter :=
  argumentDelimiters (call.start + Text.width call.name + 1) call.arguments

/-- A delimiter stands in a text where it says, and a backslash before it where it says. -/
def Delimiter.StandsIn (text : Text) (delimiter : Delimiter) : Prop :=
  Text.charAt? text delimiter.offset = some delimiter.role.character ∧
    isEscaped text delimiter.offset = delimiter.behindBackslash

/-- A delimiter between two parts of a text stands there; the first part ends in a backslash or
not. -/
theorem Delimiter.standsIn_append (before after : Text) (role : Role) :
    Delimiter.StandsIn (before ++ role.character :: after)
      ⟨Text.width before, role, before.getLast? == some '\\'⟩ := by
  constructor
  · exact Text.charAt?_eq_some_iff.mpr ⟨before, after, rfl, rfl⟩
  · exact isEscaped_append before _

/-- A text without quotes has no inner quotes. -/
theorem innerQuotes_eq_nil {text : Text} (unquoted : '"' ∉ text) (offset : Nat) :
    innerQuotes offset text = [] := by
  induction text generalizing offset with
  | nil => rfl
  | cons first rest inductionHypothesis =>
    obtain ⟨different, others⟩ := List.ne_and_not_mem_of_not_mem_cons unquoted
    rw [innerQuotes, if_neg (Ne.symm different), inductionHypothesis others]
    rfl

/-- The second character of a pair is an inner quote, if it is a quote. -/
theorem innerQuotes_pair (front rest : Text) (second : Char) :
    ∀ delimiter ∈ innerQuotes (Text.width front) ['\\', second],
      delimiter.StandsIn (front ++ '\\' :: second :: rest) := by
  intro delimiter member
  by_cases quote : second = '"'
  · subst quote
    have standing := Delimiter.standsIn_append (front ++ ['\\']) rest .innerQuote
    have place : delimiter =
        ⟨Text.width (front ++ ['\\']), .innerQuote, (front ++ ['\\']).getLast? == some '\\'⟩ := by
      simpa [innerQuotes, Text.width_append, Text.width] using member
    rw [place]
    simpa [Role.character] using standing
  · simp [innerQuotes, quote] at member

/-- A brace ends the written form of a reference. -/
theorem getLast?_append_reference (front name : Text) :
    (front ++ (Piece.reference name).written).getLast? = some '}' := by
  rw [Piece.written, ← List.append_assoc]
  exact List.getLast?_concat

/-- No backslash ends a run of plain characters. -/
theorem getLast?_append_plain_ne {run : Text} (present : run ≠ [])
    (plain : ∀ character ∈ run, isPlain character = true) (front : Text) :
    (front ++ run).getLast? ≠ some '\\' := by
  intro last
  rw [List.getLast?_append_of_ne_nil front present] at last
  have unmarked : isPlain '\\' = true := plain '\\' (List.mem_of_getLast? last)
  exact absurd unmarked (by decide)

/-- The delimiters of a string stand where the string is written.

Behind each canonical piece, the last character is a backslash exactly if the piece is a pair of
them. -/
theorem stringDelimiters_stand {pieces : List Piece}
    (each : ∀ piece ∈ pieces, piece.Canonical) (front behind : Text) :
    ∀ delimiter ∈ stringDelimiters (front.getLast? == some '\\') (Text.width front) pieces,
      delimiter.StandsIn (front ++ (pieces.flatMap Piece.written ++ '"' :: behind)) := by
  induction pieces generalizing front with
  | nil =>
    intro delimiter member
    rw [List.mem_singleton.mp member]
    exact Delimiter.standsIn_append front behind .stringEnd
  | cons piece rest inductionHypothesis =>
    obtain ⟨here, others⟩ := List.forall_mem_cons.mp each
    have later := inductionHypothesis others (front ++ piece.written)
    rw [Text.width_append, List.append_assoc] at later
    rw [List.flatMap_cons, List.append_assoc]
    cases here with
    | run first run plain unmarked =>
      have marked : ∀ character ∈ first :: run, isPlain character = true :=
        List.forall_mem_cons.mpr ⟨plain, unmarked⟩
      have unquoted : '"' ∉ first :: run := by
        intro member
        exact absurd (marked '"' member) (by decide)
      have single : first :: run ≠ ['\\', '\\'] := by
        intro pair
        exact (isPlain_iff.mp plain).2.2 (List.cons.inj pair).1
      rw [Piece.written, beq_false_of_ne (getLast?_append_plain_ne (by simp) marked front),
        ← beq_false_of_ne single] at later
      rw [stringDelimiters, innerQuotes_eq_nil unquoted, List.nil_append]
      exact later
    | escape second =>
      have paired : ((front ++ ['\\', second]).getLast? == some '\\') =
          (['\\', second] == ['\\', '\\']) := by
        simp
      rw [Piece.written, paired] at later
      rw [stringDelimiters, List.forall_mem_append]
      exact ⟨innerQuotes_pair front _ second, later⟩
    | reference name closed unquoted =>
      rw [getLast?_append_reference] at later
      rw [stringDelimiters, innerQuotes_eq_nil unquoted, List.singleton_append,
        List.forall_mem_cons]
      exact ⟨Delimiter.standsIn_append front _ .embedded, later⟩

/-- The delimiters of an argument stand where it is written behind a colon. -/
theorem Argument.delimiters_stand {argument : Argument} (canonical : argument.Canonical)
    {front : Text} (introduced : front.getLast? = some ':') (behind : Text) :
    ∀ delimiter ∈ argument.delimiters (Text.width front),
      delimiter.StandsIn (front ++ (argument.written ++ behind)) := by
  have bare : (front.getLast? == some '\\') = false := by simp [introduced]
  cases argument with
  | reference name =>
    have opening := Delimiter.standsIn_append front (name ++ ['}'] ++ behind) .reference
    rw [bare] at opening
    intro delimiter member
    rw [List.mem_singleton.mp member]
    exact opening
  | quoted pieces =>
    have written : (Argument.quoted pieces).written ++ behind =
        ['"'] ++ (pieces.flatMap Piece.written ++ '"' :: behind) := by
      simp [Argument.written]
    have opening := Delimiter.standsIn_append front
      (pieces.flatMap Piece.written ++ '"' :: behind) .stringStart
    have inside := stringDelimiters_stand canonical.each (front ++ ['"']) behind
    have quoted : ((front ++ ['"']).getLast? == some '\\') = false := by simp
    rw [bare] at opening
    rw [quoted, Text.width_append, List.append_assoc] at inside
    rw [written]
    exact List.forall_mem_cons.mpr ⟨opening, inside⟩
  | empty => simp [Argument.delimiters]

/-- The delimiters of arguments stand where these are written behind a colon. -/
theorem argumentDelimiters_stand {arguments : List Argument}
    (each : ∀ argument ∈ arguments, argument.Canonical) {front : Text}
    (introduced : front.getLast? = some ':') (behind : Text) :
    ∀ delimiter ∈ argumentDelimiters (Text.width front) arguments,
      delimiter.StandsIn (front ++ (writtenArguments arguments ++ behind)) := by
  induction arguments generalizing front with
  | nil => simp [argumentDelimiters]
  | cons argument rest inductionHypothesis =>
    obtain ⟨here, others⟩ := List.forall_mem_cons.mp each
    rw [argumentDelimiters, List.forall_mem_append]
    cases rest with
    | nil =>
      rw [writtenArguments_singleton]
      exact ⟨argument.delimiters_stand here introduced behind, by simp [argumentDelimiters]⟩
    | cons second remaining =>
      have standing := argument.delimiters_stand here introduced
        (':' :: (writtenArguments (second :: remaining) ++ behind))
      have later := @inductionHypothesis others (front ++ argument.written ++ [':'])
        List.getLast?_concat
      rw [Text.width_append, Text.width_append, List.append_assoc, List.append_assoc] at later
      rw [writtenArguments_cons_cons, List.append_assoc, List.cons_append]
      exact ⟨standing, later⟩

/-- The delimiters of a call stand where it was read. -/
theorem Call.delimiters_stand {text : Text} {start : Nat} {call : Call}
    (read : Call.read? text start = some (.ok call)) :
    ∀ delimiter ∈ call.delimiters, delimiter.StandsIn text := by
  obtain ⟨before, name, taken, left, rfl, rfl, complete, same⟩ := exists_parts_of_read? read
  have separated : (before ++ name ++ [':']).getLast? = some ':' := List.getLast?_concat
  by_cases found : call.arguments = []
  · simp [Call.delimiters, argumentDelimiters, found]
  · obtain ⟨each, _, _, extra, _, whole⟩ := (readArguments_eq_ok_iff found).mp complete
    have standing := argumentDelimiters_stand each separated (extra ++ left)
    rw [Text.width_append, Text.width_append, List.append_assoc, List.append_assoc,
      List.singleton_append, ← List.append_assoc (writtenArguments _), ← whole] at standing
    rw [same]
    exact standing

/-- A pair of backslashes in a string is followed by further text: neither a reference nor the end
of the string comes directly behind it. -/
def PairsFollowed (pieces : List Piece) : Prop :=
  ∀ front back, pieces = front ++ .text ['\\', '\\'] :: back →
    ∃ content rest, back = .text content :: rest

/-- The rule of the single character before a delimiter agrees with a call that was read from a
text: of the delimiters of the call, it takes the inner quotes for escaped and no other. -/
def Call.EscapesAgree (text : Text) (call : Call) : Prop :=
  ∀ delimiter ∈ call.delimiters,
    isEscaped text delimiter.offset = true ↔ delimiter.role = .innerQuote

/-- An empty string has no pair of backslashes. -/
theorem pairsFollowed_nil : PairsFollowed [] := by
  simp [PairsFollowed]

/-- Only what stands directly behind a pair of backslashes matters. -/
theorem pairsFollowed_cons {piece : Piece} {rest : List Piece} :
    PairsFollowed (piece :: rest) ↔
      (piece = .text ['\\', '\\'] → ∃ content others, rest = .text content :: others) ∧
        PairsFollowed rest := by
  constructor
  · intro followed
    constructor
    · intro pair
      exact followed [] rest (by rw [pair, List.nil_append])
    · intro front back whole
      exact followed (piece :: front) back (by rw [whole, List.cons_append])
  · rintro ⟨here, later⟩ front back whole
    cases front with
    | nil =>
      obtain ⟨pair, rfl⟩ := List.cons.inj whole
      exact here pair
    | cons head others => exact later others back (List.cons.inj whole).2

/-- A delimiter for which both rules agree: a backslash stands before it exactly if it is an inner
quote. -/
def Delimiter.Regular (delimiter : Delimiter) : Prop :=
  delimiter.behindBackslash = true ↔ delimiter.role = .innerQuote

/-- Inner quotes are regular. -/
theorem innerQuotes_regular (offset : Nat) (text : Text) :
    ∀ delimiter ∈ innerQuotes offset text, delimiter.Regular := by
  induction text generalizing offset with
  | nil => simp [innerQuotes]
  | cons first rest inductionHypothesis =>
    intro delimiter member
    rcases List.mem_append.mp member with here | later
    · split at here
      · rw [List.mem_singleton.mp here]
        exact iff_of_true rfl rfl
      · simp at here
    · exact inductionHypothesis _ delimiter later

/-- The delimiters of a string are regular exactly if every pair of backslashes is followed by
further text, one in front of the string included. -/
theorem stringDelimiters_regular_iff (paired : Bool) (offset : Nat) (pieces : List Piece) :
    (∀ delimiter ∈ stringDelimiters paired offset pieces, delimiter.Regular) ↔
      (paired = true → ∃ content rest, pieces = .text content :: rest) ∧
        PairsFollowed pieces := by
  induction pieces generalizing paired offset with
  | nil => simp [stringDelimiters, Delimiter.Regular, pairsFollowed_nil]
  | cons piece rest inductionHypothesis =>
    rw [pairsFollowed_cons]
    cases piece with
    | text content =>
      rw [stringDelimiters, List.forall_mem_append, inductionHypothesis,
        iff_true_intro (innerQuotes_regular offset content)]
      simp
    | reference name =>
      rw [stringDelimiters, List.cons_append, List.forall_mem_cons, List.forall_mem_append,
        inductionHypothesis, iff_true_intro (innerQuotes_regular (offset + 1) name)]
      simp [Delimiter.Regular]

/-- Inside a string only its end and its references can be irregular. -/
theorem stringDelimiters_cases (paired : Bool) (offset : Nat) (pieces : List Piece) :
    ∀ delimiter ∈ stringDelimiters paired offset pieces,
      delimiter.role = .stringEnd ∨ delimiter.role = .embedded ∨ delimiter.Regular := by
  induction pieces generalizing paired offset with
  | nil => simp [stringDelimiters]
  | cons piece rest inductionHypothesis =>
    cases piece with
    | text content =>
      rw [stringDelimiters, List.forall_mem_append]
      exact ⟨fun delimiter member => Or.inr (Or.inr (innerQuotes_regular _ _ _ member)),
        inductionHypothesis _ _⟩
    | reference name =>
      rw [stringDelimiters, List.cons_append, List.forall_mem_cons, List.forall_mem_append]
      exact ⟨Or.inr (Or.inl rfl),
        fun delimiter member => Or.inr (Or.inr (innerQuotes_regular _ _ _ member)),
        inductionHypothesis _ _⟩

/-- The delimiters of arguments are regular exactly if every pair of backslashes in a string is
followed by further text. -/
theorem argumentDelimiters_regular_iff (offset : Nat) (arguments : List Argument) :
    (∀ delimiter ∈ argumentDelimiters offset arguments, delimiter.Regular) ↔
      ∀ pieces, .quoted pieces ∈ arguments → PairsFollowed pieces := by
  induction arguments generalizing offset with
  | nil => simp [argumentDelimiters]
  | cons argument rest inductionHypothesis =>
    rw [argumentDelimiters, List.forall_mem_append, inductionHypothesis]
    cases argument with
    | reference name => simp [Argument.delimiters, Delimiter.Regular]
    | quoted pieces =>
      rw [Argument.delimiters, List.forall_mem_cons, stringDelimiters_regular_iff]
      simp [Delimiter.Regular]
    | empty => simp [Argument.delimiters]

/-- Among the delimiters of arguments only ends of strings and references in them can be
irregular. -/
theorem argumentDelimiters_cases (offset : Nat) (arguments : List Argument) :
    ∀ delimiter ∈ argumentDelimiters offset arguments,
      delimiter.role = .stringEnd ∨ delimiter.role = .embedded ∨ delimiter.Regular := by
  induction arguments generalizing offset with
  | nil => simp [argumentDelimiters]
  | cons argument rest inductionHypothesis =>
    rw [argumentDelimiters, List.forall_mem_append]
    constructor
    · cases argument with
      | reference name => simp [Argument.delimiters, Delimiter.Regular]
      | quoted pieces =>
        rw [Argument.delimiters, List.forall_mem_cons]
        exact ⟨Or.inr (Or.inr (by simp [Delimiter.Regular])), stringDelimiters_cases _ _ _⟩
      | empty => simp [Argument.delimiters]
    · exact inductionHypothesis _

/-- The two rules agree on a call that was read exactly if every pair of backslashes in a string of
it is followed by further text.

Every delimiter of the call stands in the text at its offset, and behind a backslash if its parts
say so. On quotes inside strings and on whatever opens an argument the rules always agree, so only
the end of a string and a brace inside one can tell them apart.

Proof: the parts of the call tell whether a backslash stands before a delimiter. It does before
each inner quote, it does not behind the colon before an argument, and otherwise it belongs to the
piece directly before the delimiter, which then is a pair of backslashes. -/
theorem escapesAgree_iff {text : Text} {start : Nat} {call : Call}
    (read : Call.read? text start = some (.ok call)) :
    (∀ delimiter ∈ call.delimiters, delimiter.StandsIn text) ∧
      (∀ delimiter ∈ call.delimiters, delimiter.role ≠ .stringEnd → delimiter.role ≠ .embedded →
        (isEscaped text delimiter.offset = true ↔ delimiter.role = .innerQuote)) ∧
      (call.EscapesAgree text ↔
        ∀ pieces, .quoted pieces ∈ call.arguments → PairsFollowed pieces) := by
  have standing := call.delimiters_stand read
  have regular (delimiter : Delimiter) (member : delimiter ∈ call.delimiters) :
      (isEscaped text delimiter.offset = true ↔ delimiter.role = .innerQuote) ↔
        delimiter.Regular := by
    rw [(standing delimiter member).2]
    rfl
  refine ⟨standing, ?_, ?_⟩
  · intro delimiter member notEnd notEmbedded
    have kinds := argumentDelimiters_cases _ call.arguments delimiter member
    exact (regular delimiter member).mpr ((kinds.resolve_left notEnd).resolve_left notEmbedded)
  · rw [← argumentDelimiters_regular_iff]
    exact forall₂_congr regular

/-- The rules agree on a call behind another character, with an inner quote, two references and a
pair of backslashes before further text. -/
theorem escapesAgree_iff_mixed :
    let pieces : List Piece :=
      [.text ['\\', '"'], .reference ['x'], .text ['\\', '\\'], .text ['b']]
    let text : Text :=
      ['é', 'f', ':', '"', '\\', '"', '{', 'x', '}', '\\', '\\', 'b', '"', ':', '{', 'y', '}']
    let call : Call := ⟨['f'], [.quoted pieces, .reference ['y']], 2, 18, none⟩
    Call.read? text 2 = some (.ok call) ∧ call.EscapesAgree text := by
  intro pieces text call
  have plain : PlainName ['f'] := by decide
  have first :
      readArgument ['"', '\\', '"', '{', 'x', '}', '\\', '\\', 'b', '"', ':', '{', 'y', '}'] =
        .ok (some (.quoted pieces, [':', '{', 'y', '}'])) := by cbv
  have second : readArgument ['{', 'y', '}'] = .ok (some (.reference ['y'], [])) := by cbv
  have complete :
      readArguments true ['"', '\\', '"', '{', 'x', '}', '\\', '\\', 'b', '"', ':', '{', 'y', '}'] =
        .ok ([.quoted pieces, .reference ['y']], []) := by
    rw [readArguments_more first, readArguments_last second (by decide)]
    rfl
  have read : Call.read? text 2 = some (.ok call) :=
    (@read?_eq_ok_iff ['é'] _ _ _ plain).mpr ⟨_, [], (List.append_nil _).symm, complete, rfl⟩
  obtain ⟨_, _, agree⟩ := escapesAgree_iff read
  refine ⟨read, agree.mpr ?_⟩
  intro other member
  obtain rfl : other = pieces := by simpa [call] using member
  simp [pieces, pairsFollowed_cons, pairsFollowed_nil]

/-- The rules do not agree on every call: a pair of backslashes before the closing quote of a
string looks like an escape of it. -/
theorem not_escapesAgree_pair :
    let text : Text := ['f', ':', '"', '\\', '\\', '"']
    let call : Call := ⟨['f'], [.quoted [.text ['\\', '\\']]], 0, 6, none⟩
    Call.read? text 0 = some (.ok call) ∧ ⟨5, .stringEnd, true⟩ ∈ call.delimiters ∧
      isEscaped text 5 = true ∧ ¬call.EscapesAgree text := by
  intro text call
  have plain : PlainName ['f'] := by decide
  have argument : readArgument ['"', '\\', '\\', '"'] =
      .ok (some (.quoted [.text ['\\', '\\']], [])) := by cbv
  have read : Call.read? text 0 = some (.ok call) :=
    (@read?_eq_ok_iff [] _ _ _ plain).mpr
      ⟨_, [], (List.append_nil _).symm, readArguments_last argument (by decide), rfl⟩
  have closing : ⟨5, .stringEnd, true⟩ ∈ call.delimiters := by decide
  have escaped : isEscaped text 5 = true := by decide
  refine ⟨read, closing, escaped, ?_⟩
  intro agree
  exact absurd ((agree _ closing).mp escaped) (by decide)

end Phrasebook.Template
