import Phrasebook.Proofs.Canonical
import Phrasebook.Proofs.Dictionaries
import Phrasebook.Proofs.Escaping
import Phrasebook.Proofs.Resolution

/-!
# Results inside quotes

The result of an inner call is put, protected, into a quoted argument of the call around it.
Protection and the reader of strings do not agree on backslashes, however. To protection a
delimiter is escaped as soon as a backslash precedes it; the reader takes backslashes in pairs
with the character behind them, so behind an even run of them a delimiter is bare again. Nor
does protection close what a result leaves open: a last backslash takes the closing quote with
it, and a brace is read on into the text behind the result.

Which results a quoted argument takes in as they are is said here by a grammar on the results
themselves, without protection and without the reader. Protection keeps a result inside this
grammar and brings no other result into it, and an inert text is read back whole, whatever the
variables hold, exactly if it follows the grammar.
-/

namespace Phrasebook.Template

/-- A result that a quoted argument takes in as it is. `paired` says whether the result goes on
behind a backslash that is the second of a pair.

A quote may stand anywhere but behind such a pair, where protection takes it for escaped. Every
brace that no backslash is paired with is closed, without a quote in between; behind a pair it
must not name a variable, because protection takes this reference, too, for escaped. -/
inductive Quotable (variableNames : List Text) : Bool → Text → Prop where
  | nil (paired : Bool) : Quotable variableNames paired []
  | plain {paired : Bool} {first : Char} {rest : Text} (unmarked : isPlain first = true)
      (others : Quotable variableNames false rest) : Quotable variableNames paired (first :: rest)
  | quote {rest : Text} (others : Quotable variableNames false rest) :
      Quotable variableNames false ('"' :: rest)
  | escaped {paired : Bool} {second : Char} {rest : Text}
      (others : Quotable variableNames (second == '\\') rest) :
      Quotable variableNames paired ('\\' :: second :: rest)
  | reference {paired : Bool} {name rest : Text} (closed : '}' ∉ name) (unquoted : '"' ∉ name)
      (unknown : paired = true → name ∉ variableNames)
      (others : Quotable variableNames false rest) :
      Quotable variableNames paired ('{' :: (name ++ '}' :: rest))

variable {functionNames variableNames : List Text} {paired : Bool}

/-- A plain character leaves open whether a result is quotable. -/
theorem quotable_plain_iff {first : Char} {rest : Text} (unmarked : isPlain first = true) :
    Quotable variableNames paired (first :: rest) ↔ Quotable variableNames false rest := by
  constructor
  · intro quotable
    cases quotable with
    | plain _ others => exact others
    | quote => exact absurd unmarked (by decide)
    | escaped => exact absurd unmarked (by decide)
    | reference => exact absurd unmarked (by decide)
  · exact .plain unmarked

/-- A quote has to stand apart from a pair of backslashes. -/
theorem quotable_quote_iff {rest : Text} :
    Quotable variableNames paired ('"' :: rest) ↔
      paired = false ∧ Quotable variableNames false rest := by
  constructor
  · intro quotable
    cases quotable with
    | plain unmarked => exact absurd unmarked (by decide)
    | quote others => exact ⟨rfl, others⟩
  · rintro ⟨rfl, others⟩
    exact .quote others

/-- A backslash takes the next character with it. -/
theorem quotable_escaped_iff {second : Char} {rest : Text} :
    Quotable variableNames paired ('\\' :: second :: rest) ↔
      Quotable variableNames (second == '\\') rest := by
  constructor
  · intro quotable
    cases quotable with
    | plain unmarked => exact absurd unmarked (by decide)
    | escaped others => exact others
  · exact .escaped

/-- A brace begins a reference up to the first closing brace. -/
theorem quotable_brace_iff {rest : Text} :
    Quotable variableNames paired ('{' :: rest) ↔
      ∃ name after, rest = name ++ '}' :: after ∧ '}' ∉ name ∧ '"' ∉ name ∧
        (paired = true → name ∉ variableNames) ∧ Quotable variableNames false after := by
  constructor
  · intro quotable
    cases quotable with
    | plain unmarked => exact absurd unmarked (by decide)
    | reference closed unquoted unknown others =>
      exact ⟨_, _, rfl, closed, unquoted, unknown, others⟩
  · rintro ⟨name, after, rfl, closed, unquoted, unknown, others⟩
    exact .reference closed unquoted unknown others

/-- Where the first closing brace stands is known, the reference is. -/
theorem quotable_reference_iff {name rest : Text} (closed : '}' ∉ name) :
    Quotable variableNames paired ('{' :: (name ++ '}' :: rest)) ↔
      '"' ∉ name ∧ (paired = true → name ∉ variableNames) ∧
        Quotable variableNames false rest := by
  rw [quotable_brace_iff]
  constructor
  · rintro ⟨other, after, same, closed', unquoted, unknown, others⟩
    obtain ⟨rfl, rfl⟩ := Text.parts_eq_of_mark same closed closed'
    exact ⟨unquoted, unknown, others⟩
  · rintro ⟨unquoted, unknown, others⟩
    exact ⟨name, rest, rfl, closed, unquoted, unknown, others⟩

/-- A run of plain characters leaves open whether a result is quotable. -/
theorem quotable_plain_append_iff {run rest : Text}
    (unmarked : ∀ character ∈ run, isPlain character = true) :
    Quotable variableNames false (run ++ rest) ↔ Quotable variableNames false rest := by
  induction run with
  | nil => rfl
  | cons first others inductionHypothesis =>
    obtain ⟨plain, remaining⟩ := List.forall_mem_cons.mp unmarked
    rw [List.cons_append, quotable_plain_iff plain, inductionHypothesis remaining]

/-- A brace that protection lets pass begins a quotable text before protection exactly if it does
so afterwards, provided that this is known of whatever follows the reference. -/
theorem quotable_protectAfter_brace_iff
    (plainVariables : ∀ name ∈ variableNames, PlainName name) {seen rest : Text}
    (behind : ∀ name after last, rest = name ++ '}' :: after →
      (Quotable variableNames false
          (protectAfter functionNames variableNames ('}' :: last) after) ↔
        Quotable variableNames false after)) :
    Quotable variableNames paired
        ('{' :: protectAfter functionNames variableNames seen rest) ↔
      Quotable variableNames paired ('{' :: rest) := by
  by_cases closing : '}' ∈ rest
  · obtain ⟨name, after, rfl, closed⟩ := List.eq_append_cons_of_mem closing
    obtain ⟨inner, last, returned, apart, quotes⟩ := exists_protectAfter_closing functionNames
      plainVariables closed seen after
    have listed := mem_variables_of_closing plainVariables closed apart returned
    rw [returned, quotable_reference_iff apart, quotable_reference_iff closed, quotes, listed,
      behind name after last rfl]
  · have open_ := closing_not_mem_protectAfter functionNames variableNames closing seen
    constructor
    · intro quotable
      obtain ⟨name, after, same, _⟩ := quotable_brace_iff.mp quotable
      exact absurd (by simp [same]) open_
    · intro quotable
      obtain ⟨name, after, same, _⟩ := quotable_brace_iff.mp quotable
      exact absurd (by simp [same]) closing

/-- A reference to a variable begins a quotable text before protection exactly if it does so
afterwards, with both braces escaped. -/
theorem quotable_protectAfter_known
    (plainVariables : ∀ name ∈ variableNames, PlainName name) {seen rest : Text}
    (bare : seen.head? ≠ some '\\') (known : knownReference? variableNames rest ≠ none)
    (behind : ∀ name after last, rest = name ++ '}' :: after →
      (Quotable variableNames false
          (protectAfter functionNames variableNames ('}' :: last) after) ↔
        Quotable variableNames false after)) :
    Quotable variableNames false
        (protectAfter functionNames variableNames seen ('{' :: rest)) ↔
      Quotable variableNames false ('{' :: rest) := by
  obtain ⟨⟨name, after⟩, found⟩ := Option.ne_none_iff_exists'.mp known
  obtain ⟨member, rfl⟩ := eq_append_of_knownReference? found
  have ordinary : Ordinary name := (plainVariables name member).ordinary
  have unmarked : ∀ character ∈ name, isPlain character = true :=
    fun character here => isPlain_of_ordinary (ordinary character here)
  have later := behind name after (name.reverse ++ '{' :: seen) rfl
  rw [protectAfter_known bare found, quotable_escaped_iff,
    quotable_reference_iff ordinary.brace_absent]
  simp only [Char.reduceBEq, quotable_plain_append_iff unmarked, quotable_escaped_iff]
  rw [List.cons_append, later]
  simp [ordinary.quote_absent]

/-- Any other character begins a quotable text before protection exactly if it does so
afterwards, with a backslash in front or without. -/
theorem quotable_protectAfter_cons {seen rest : Text} {first : Char} (backslash : first ≠ '\\')
    (brace : first ≠ '{')
    (later : Quotable variableNames false
        (protectAfter functionNames variableNames (first :: seen) rest) ↔
      Quotable variableNames false rest) :
    Quotable variableNames (seen.head? == some '\\')
        (protectAfter functionNames variableNames seen (first :: rest)) ↔
      Quotable variableNames (seen.head? == some '\\') (first :: rest) := by
  have single : (first == '\\') = false := by simpa using backslash
  by_cases bare : seen.head? = some '\\'
  · obtain ⟨earlier, rfl⟩ := List.head?_eq_some_iff.mp bare
    rw [protectAfter_escaped]
    by_cases quote : first = '"'
    · subst quote
      simp [quotable_quote_iff]
    · have unmarked : isPlain first = true := isPlain_iff.mpr ⟨quote, brace, backslash⟩
      rw [quotable_plain_iff unmarked, quotable_plain_iff unmarked, later]
  · have unpaired : (seen.head? == some '\\') = false := by simpa using bare
    rw [unpaired]
    rcases protectAfter_cases bare backslash brace rest with ⟨_, guarded⟩ | ⟨unmarked, passed⟩
    · rw [guarded, quotable_escaped_iff, single, later]
      by_cases quote : first = '"'
      · subst quote
        simp [quotable_quote_iff]
      · rw [quotable_plain_iff (isPlain_iff.mpr ⟨quote, brace, backslash⟩)]
    · rw [passed, quotable_plain_iff unmarked, quotable_plain_iff unmarked, later]

/-- Protection neither makes a result quotable nor keeps one from being so.

Proof: by recursion over the result, along what the reader of strings takes at a time: a
backslash with the character behind it, a reference, or a single character. What protection
adds is a backslash in front of a character that was single before. -/
theorem quotable_protectAfter_iff (plainVariables : ∀ name ∈ variableNames, PlainName name)
    (seen text : Text) :
    Quotable variableNames (seen.head? == some '\\')
        (protectAfter functionNames variableNames seen text) ↔
      Quotable variableNames (seen.head? == some '\\') text := by
  match text with
  | [] => rw [protectAfter.eq_def]
  | first :: rest =>
    by_cases backslash : first = '\\'
    · subst backslash
      cases rest with
      | nil => rw [protectAfter_backslash, protectAfter.eq_def]
      | cons second others =>
        rw [protectAfter_backslash, protectAfter_escaped, quotable_escaped_iff,
          quotable_escaped_iff]
        exact quotable_protectAfter_iff plainVariables (second :: '\\' :: seen) others
    · by_cases brace : first = '{'
      · subst brace
        have behind (name after last : Text) (same : rest = name ++ '}' :: after) :
            Quotable variableNames false
                (protectAfter functionNames variableNames ('}' :: last) after) ↔
              Quotable variableNames false after := by
          have shorter : after.length < rest.length := by
            rw [same, List.length_append, List.length_cons]
            omega
          exact quotable_protectAfter_iff plainVariables ('}' :: last) after
        by_cases free : seen.head? = some '\\' ∨ knownReference? variableNames rest = none
        · rw [protectAfter_brace free]
          exact quotable_protectAfter_brace_iff plainVariables behind
        · obtain ⟨bare, known⟩ := not_or.mp free
          have unpaired : (seen.head? == some '\\') = false := by simpa using bare
          rw [unpaired]
          exact quotable_protectAfter_known plainVariables bare known behind
      · have single : (first == '\\') = false := by simpa using backslash
        have later := quotable_protectAfter_iff plainVariables (first :: seen) rest
        rw [List.head?_cons, Option.some_beq_some, single] at later
        exact quotable_protectAfter_cons backslash brace later
termination_by text.length

/-- An inert text that is quotable stands for itself inside quotes, whatever follows it there, in
every scope that binds only the variables against which the text is inert.

The induction follows the grammar. Of its forms, an inert text never shows a bare quote, nor a
bare brace before the name of a variable: either would be exposed there. -/
theorem Quotable.reads_append {scope : Scope} {text : Text}
    (quotable : Quotable variableNames paired text)
    (plainVariables : ∀ name ∈ variableNames, PlainName name)
    (bound : ∀ name ∈ scope.bindings.keys, name ∈ variableNames) {seen : Text}
    (tracked : paired = (seen.head? == some '\\'))
    (inert : InertAfter functionNames variableNames seen text) {behind value after : Text}
    (reads : Reads scope behind value after) :
    Reads scope (text ++ behind) (text ++ value) after := by
  induction quotable generalizing seen with
  | nil paired => exact reads
  | @plain paired first rest unmarked _ inductionHypothesis =>
    have single : first ≠ '\\' := by
      rintro rfl
      exact absurd unmarked (by decide)
    exact (inductionHypothesis (by simpa using single) inert.2).plain unmarked
  | @quote rest _ _ =>
    have bare : seen.head? ≠ some '\\' := by simpa using tracked
    exact absurd ⟨bare, Or.inr (Or.inl rfl)⟩ inert.1
  | @escaped paired second rest _ inductionHypothesis =>
    exact (inductionHypothesis (by simp) inert.2.2).escaped second
  | @reference paired name rest closed unquoted unknown _ inductionHypothesis =>
    have unlisted : name ∉ variableNames := by
      by_cases escaped : paired = true
      · exact unknown escaped
      · intro listed
        have bare : seen.head? ≠ some '\\' := by simpa [escaped] using tracked
        have known := exists_knownReference? listed (plainVariables name listed).nonempty rest
        exact inert.1 ⟨bare, Or.inr (Or.inr ⟨rfl, known⟩)⟩
    have itself : scope.referenceText name = '{' :: name ++ ['}'] :=
      scope.referenceText_of_not_mem fun known => unlisted (bound name known)
    have later :
        InertAfter functionNames variableNames ('}' :: name.reverse ++ '{' :: seen) rest := by
      have behind := inert.2.behind
      exact behind.2
    have read := (inductionHypothesis (by simp) later).embedded closed unquoted
    rw [itself] at read
    simpa using read

/-- In particular it is read up to the quote that closes the string. -/
theorem Quotable.reads {scope : Scope} {text : Text}
    (quotable : Quotable variableNames paired text)
    (plainVariables : ∀ name ∈ variableNames, PlainName name)
    (bound : ∀ name ∈ scope.bindings.keys, name ∈ variableNames) {seen : Text}
    (tracked : paired = (seen.head? == some '\\'))
    (inert : InertAfter functionNames variableNames seen text) (after : Text) :
    Reads scope (text ++ '"' :: after) text after := by
  have closing : Reads scope ('"' :: after) [] after := .closing
  have read := quotable.reads_append plainVariables bound tracked inert closing
  rwa [List.append_nil] at read

/-- What is read as the pieces of a string is quotable, if no piece refers to a variable.

Proof: by induction on the pieces, which are canonical. -/
theorem quotable_of_readPieces {text after : Text} {pieces : List Piece}
    (read : readPieces text = .ok (pieces, after))
    (unknown : ∀ name, Piece.reference name ∈ pieces → name ∉ variableNames) :
    Quotable variableNames paired (pieces.flatMap Piece.written) := by
  have each := (canonical_of_readPieces read).each
  clear read
  induction pieces generalizing paired with
  | nil => exact .nil paired
  | cons piece rest inductionHypothesis =>
    obtain ⟨here, others⟩ := List.forall_mem_cons.mp each
    have later (behind : Bool) : Quotable variableNames behind (rest.flatMap Piece.written) :=
      inductionHypothesis (fun name member => unknown name (List.mem_cons_of_mem _ member)) others
    cases here with
    | run first run plain unmarked =>
      exact .plain plain ((quotable_plain_append_iff unmarked).mpr (later false))
    | escape second => exact .escaped (later _)
    | reference name closed unquoted =>
      have written : (Piece.reference name :: rest).flatMap Piece.written =
          '{' :: (name ++ '}' :: rest.flatMap Piece.written) := by
        simp [Piece.written]
      rw [written]
      exact .reference closed unquoted (fun _ => unknown name List.mem_cons_self) (later false)

/-- The variables of these names, none of which has any text. -/
def blank (names : List Text) : Dictionary Value :=
  Dictionary.tabulate names fun _ => .string []

/-- A blank variable has the empty text as its value. -/
theorem find?_blank (names : List Text) (name : Text) :
    (blank names).find? name = if name ∈ names then some (.string []) else none :=
  Dictionary.find?_tabulate names _ name

/-- A reference to a blank variable stands for nothing, any other one for itself. -/
theorem referenceText_blank (functions : Dictionary TextFunction) (name : Text) :
    Scope.referenceText ⟨blank variableNames, functions⟩ name =
      if name ∈ variableNames then [] else '{' :: name ++ ['}'] := by
  rw [Scope.referenceText, find?_blank]
  by_cases listed : name ∈ variableNames
  · simp [listed, Value.text]
  · simp [listed]

/-- A piece stands for no more than its written form when all variables are blank. -/
theorem length_pieceText_blank_le (variableNames : List Text)
    (functions : Dictionary TextFunction) (piece : Piece) :
    (Scope.pieceText ⟨blank variableNames, functions⟩ piece).length ≤ piece.written.length := by
  cases piece with
  | text content => exact Nat.le_refl _
  | reference name =>
    rw [Scope.pieceText, referenceText_blank]
    by_cases listed : name ∈ variableNames
    · simp [listed]
    · simp [listed, Piece.written]

/-- Pieces that stand for their written form when all variables are blank refer to none. -/
theorem not_mem_of_flatMap_blank {functions : Dictionary TextFunction} {pieces : List Piece}
    (same : pieces.flatMap (Scope.pieceText ⟨blank variableNames, functions⟩) =
      pieces.flatMap Piece.written) :
    ∀ name, Piece.reference name ∈ pieces → name ∉ variableNames := by
  intro name member listed
  have bound (piece : Piece) (_ : piece ∈ pieces) :=
    length_pieceText_blank_le variableNames functions piece
  have alike := eq_of_flatMap_eq bound same (.reference name) member
  rw [Scope.pieceText, referenceText_blank, if_pos listed] at alike
  simp [Piece.written] at alike

/-- A string that is read as the only argument of a call is closed by the quote that ends the
text, if nothing is left unread behind it.

A separator behind the argument would be taken along, but then it would end the text. -/
theorem readPieces_of_readArguments {inside : Text} {pieces : List Piece}
    (read : readArguments true ('"' :: (inside ++ ['"'])) = .ok ([.quoted pieces], [])) :
    readPieces (inside ++ ['"']) = .ok (pieces, []) := by
  obtain ⟨each, _, _, extra, ending, whole⟩ := (readArguments_eq_ok_iff (by simp)).mp read
  cases ending with
  | bare _ =>
    refine readPieces_eq_ok_iff.mpr ⟨each _ List.mem_cons_self, ?_⟩
    simpa [writtenArguments_singleton, Argument.written] using whole
  | colon _ =>
    have last := congrArg List.getLast? whole
    rw [List.append_nil, List.getLast?_concat, ← List.cons_append, List.getLast?_concat] at last
    exact absurd last (by decide)

/-- A call of a function with one argument, a text in quotes. -/
def quotedCall (function inside : Text) : Text :=
  function ++ ':' :: '"' :: (inside ++ ['"'])

/-- A call of a function with one text in quotes: what is read as its arguments, and up to which
place. -/
theorem read?_quotedCall {function inside : Text} {call : Call} (colons : ':' ∉ function)
    (backslashes : '\\' ∉ function) :
    Call.read? (quotedCall function inside) 0 = some (.ok call) ↔
      ∃ taken left, '"' :: (inside ++ ['"']) = taken ++ left ∧
        readArguments true ('"' :: (inside ++ ['"'])) = .ok (call.arguments, left) ∧
        call = ⟨function, call.arguments, 0, Text.width (function ++ ':' :: taken),
          Trailing.of? left⟩ := by
  have named : readName? false (quotedCall function inside) =
      some (function, '"' :: (inside ++ ['"'])) :=
    readName?_of_not_mem colons (fun last => backslashes (List.mem_of_getLast? last)) fun _ => rfl
  exact @read?_append_eq_ok_iff [] _ _ _ call named

/-- A call with one text in quotes is read with that argument alone, and up to its end, exactly if
the quote that ends it closes the string. -/
theorem read?_quotedCall_iff {function inside : Text} {pieces : List Piece}
    (colons : ':' ∉ function) (backslashes : '\\' ∉ function) :
    (∃ call, Call.read? (quotedCall function inside) 0 = some (.ok call) ∧
        call.arguments = [.quoted pieces] ∧
        call.stop = Text.width (quotedCall function inside)) ↔
      readPieces (inside ++ ['"']) = .ok (pieces, []) := by
  simp only [read?_quotedCall colons backslashes]
  constructor
  · rintro ⟨call, ⟨taken, left, parts, complete, same⟩, only, whole⟩
    have nothing : left = [] := by
      have stop : call.stop = Text.width (function ++ ':' :: taken) := by rw [same]
      rw [quotedCall, parts, ← List.cons_append, ← List.append_assoc, Text.width_append] at whole
      exact Text.width_eq_zero_iff.mp (by omega)
    rw [only, nothing] at complete
    exact readPieces_of_readArguments complete
  · intro closed
    have argument : readArgument ('"' :: (inside ++ ['"'])) =
        .ok (some (.quoted pieces, [])) := by simp [readArgument, closed]
    have complete : readArguments true ('"' :: (inside ++ ['"'])) = .ok ([.quoted pieces], []) :=
      readArguments_last argument (by simp)
    refine ⟨⟨function, [.quoted pieces], 0, Text.width (quotedCall function inside), none⟩, ?_,
      rfl, rfl⟩
    exact ⟨_, [], (List.append_nil _).symm, complete, rfl⟩

/-- A protected result fills the quotes it is put into: the call is read with one argument, which
is quoted and ends with the text, and which stands for the protected result whatever the
variables hold. -/
def FillsQuotes (functionNames variableNames : List Text) (function result : Text) : Prop :=
  ∃ call pieces,
    Call.read? (quotedCall function (protect functionNames variableNames result)) 0 =
      some (.ok call) ∧
    call.arguments = [.quoted pieces] ∧
    call.stop = Text.width (quotedCall function (protect functionNames variableNames result)) ∧
    ∀ scope : Scope, (∀ name, name ∈ scope.bindings.keys ↔ name ∈ variableNames) →
      scope.argumentText (.quoted pieces) = protect functionNames variableNames result

/-- A protected result fills its quotes exactly if the result is quotable.

Proof: protection leaves open whether a text is quotable. A quotable text that is inert is read
back whole. Conversely, what is read back whole when all variables are blank holds no reference
to any of them, so the reading follows the grammar. -/
theorem fillsQuotes_iff (functionNames variableNames : List Text) (function result : Text)
    (plainFunctions : ∀ name ∈ functionNames, PlainName name)
    (plainVariables : ∀ name ∈ variableNames, PlainName name)
    (listed : function ∈ functionNames) :
    FillsQuotes functionNames variableNames function result ↔
      Quotable variableNames false result := by
  have ordinary : Ordinary function := (plainFunctions function listed).ordinary
  have colons := ordinary.colon_absent
  have backslashes := ordinary.backslash_absent
  have unchanged : Quotable variableNames false (protect functionNames variableNames result) ↔
      Quotable variableNames false result := quotable_protectAfter_iff plainVariables [] result
  have inert : InertAfter functionNames variableNames []
      (protect functionNames variableNames result) :=
    protectAfter_inertAfter plainFunctions plainVariables ⟨rfl, rfl⟩
  rw [← unchanged]
  constructor
  · rintro ⟨call, pieces, read, only, whole, values⟩
    have closed := (read?_quotedCall_iff colons backslashes).mp ⟨call, read, only, whole⟩
    have written : protect functionNames variableNames result = pieces.flatMap Piece.written :=
      List.append_cancel_right (eq_append_of_readPieces closed)
    have blanked := values ⟨blank variableNames, .empty⟩ fun _ => Dictionary.mem_keys_tabulate
    rw [written]
    exact quotable_of_readPieces closed (not_mem_of_flatMap_blank (blanked.trans written))
  · intro quotable
    have reads (scope : Scope) (bound : ∀ name ∈ scope.bindings.keys, name ∈ variableNames) :=
      quotable.reads plainVariables bound rfl inert []
    obtain ⟨pieces, closed, _⟩ :=
      reads ⟨.empty, .empty⟩ (by simp [Dictionary.keys, Dictionary.empty])
    obtain ⟨call, read, only, whole⟩ := (read?_quotedCall_iff colons backslashes).mpr closed
    refine ⟨call, pieces, read, only, whole, fun scope same => ?_⟩
    obtain ⟨others, again, value⟩ := reads scope fun name => (same name).mp
    rw [closed] at again
    obtain ⟨rfl, _⟩ := Prod.mk.inj (Except.ok.inj again)
    exact value

/-- A result with bare and escaped delimiters, a reference to a variable, one to no variable and
a pair of backslashes at its end fills its quotes. -/
theorem fillsQuotes_iff_mixed :
    let functionNames : List Text := [['f'], ['t']]
    let variableNames : List Text := [['x']]
    let result : Text :=
      ['t', ':', '"', '{', 'x', '}', '\\', '"', '\\', '{', 'x', '}', '{', 'y', '}', '\\', '\\']
    (∀ name ∈ functionNames, PlainName name) ∧ (∀ name ∈ variableNames, PlainName name) ∧
      ['f'] ∈ functionNames ∧ FillsQuotes functionNames variableNames ['f'] result := by
  intro functionNames variableNames result
  have plainFunctions : ∀ name ∈ functionNames, PlainName name := by decide
  have plainVariables : ∀ name ∈ variableNames, PlainName name := by decide
  have listed : ['f'] ∈ functionNames := by decide
  have quotable : Quotable variableNames false result := by
    have pair : Quotable variableNames false ['\\', '\\'] := .escaped (.nil _)
    have unknown : Quotable variableNames false ['{', 'y', '}', '\\', '\\'] :=
      quotable_brace_iff.mpr ⟨['y'], _, rfl, by decide, by decide, by decide, pair⟩
    have escaped : Quotable variableNames false
        ['\\', '"', '\\', '{', 'x', '}', '{', 'y', '}', '\\', '\\'] :=
      .escaped (.escaped (.plain rfl (.plain rfl unknown)))
    have known : Quotable variableNames false
        ['{', 'x', '}', '\\', '"', '\\', '{', 'x', '}', '{', 'y', '}', '\\', '\\'] :=
      quotable_brace_iff.mpr ⟨['x'], _, rfl, by decide, by decide, by decide, escaped⟩
    exact .plain rfl (.plain rfl (.quote known))
  exact ⟨plainFunctions, plainVariables, listed, (fillsQuotes_iff functionNames variableNames ['f']
    result plainFunctions plainVariables listed).mpr quotable⟩

/-- Not every result fills its quotes: a quote behind a pair of backslashes closes them early. -/
theorem not_fillsQuotes_backslashes :
    let functionNames : List Text := [['f']]
    let variableNames : List Text := []
    let result : Text := ['\\', '\\', '"']
    (∀ name ∈ functionNames, PlainName name) ∧ (∀ name ∈ variableNames, PlainName name) ∧
      ['f'] ∈ functionNames ∧ ¬FillsQuotes functionNames variableNames ['f'] result := by
  intro functionNames variableNames result
  have plainFunctions : ∀ name ∈ functionNames, PlainName name := by decide
  refine ⟨plainFunctions, by decide, by decide, ?_⟩
  rintro ⟨call, pieces, read, only, whole, _⟩
  have closed := (read?_quotedCall_iff (by decide) (by decide)).mp
    ⟨call, read, only, whole⟩
  have early : readPieces (protect functionNames variableNames result ++ ['"']) =
      .ok ([.text ['\\', '\\']], ['"']) := by cbv
  rw [early] at closed
  simp at closed

end Phrasebook.Template
