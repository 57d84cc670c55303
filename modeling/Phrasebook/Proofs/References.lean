import Phrasebook.Proofs.Quotation

/-!
# References in quotes and in running text

References are read twice, by two readers. The reader of strings takes everything between two
braces for the name; a reference that no variable answers stands for itself, and the reader has
passed it. Substitution in running text comes to the same names, but of an unknown reference it
passes the opening brace alone. Behind this brace it finds every further brace that the name
holds, and what follows one of them, up to the closing brace, may be a variable.

So the two differ on unknown references, and only on some of them. What substitution makes of
such a reference is written down here as a function of its name, and the two readers are
compared piece by piece.
-/

namespace Phrasebook.Template

variable {bindings : Dictionary Value}

/-- What substitution makes of a name and its closing brace, behind an opening brace that it has
passed: a further brace in the name may open a reference to a variable. -/
def recovered (bindings : Dictionary Value) : Text → Text
  | [] => ['}']
  | first :: rest =>
    if first = '{' then
      match bindings.find? rest with
      | some value => value.text
      | none => '{' :: recovered bindings rest
    else first :: recovered bindings rest

/-- What substitution makes of a piece of a string. -/
def substitutedText (bindings : Dictionary Value) : Piece → Text
  | .text content => content
  | .reference name =>
    match bindings.find? name with
    | some value => value.text
    | none => '{' :: recovered bindings name

/-- Behind a brace in the name, up to the end of the name, one of these names stands. -/
def NestsKnown (names : List Text) (name : Text) : Prop :=
  ∃ front inner, name = front ++ '{' :: inner ∧ inner ∈ names

/-- An empty name has no brace in it. -/
theorem not_nestsKnown_nil {names : List Text} : ¬NestsKnown names [] := by
  rintro ⟨front, inner, same, _⟩
  simp at same

/-- The brace is the first character of the name or stands behind it. -/
theorem nestsKnown_cons_iff {names : List Text} {first : Char} {rest : Text} :
    NestsKnown names (first :: rest) ↔ first = '{' ∧ rest ∈ names ∨ NestsKnown names rest := by
  constructor
  · rintro ⟨front, inner, same, known⟩
    cases front with
    | nil =>
      obtain ⟨rfl, rfl⟩ := List.cons.inj same
      exact Or.inl ⟨rfl, known⟩
    | cons head others =>
      obtain ⟨rfl, rfl⟩ := List.cons.inj same
      exact Or.inr ⟨others, inner, rfl, known⟩
  · rintro (⟨rfl, known⟩ | ⟨front, inner, rfl, known⟩)
    · exact ⟨[], rest, rfl, known⟩
    · exact ⟨first :: front, inner, rfl, known⟩

instance decidableNestsKnown (names : List Text) : (name : Text) → Decidable (NestsKnown names name)
  | [] => .isFalse not_nestsKnown_nil
  | _ :: rest =>
    have := decidableNestsKnown names rest
    decidable_of_iff _ nestsKnown_cons_iff.symm

/-- A name without a closing brace in it is looked up as it stands before one. -/
theorem boundReference?_closing (bindings : Dictionary Value) {name : Text}
    (closed : '}' ∉ name) (rest : Text) :
    boundReference? bindings (name ++ '}' :: rest) =
      (bindings.find? name).map fun value => (value, rest) := by
  have broken : Text.breakAt? '}' (name ++ '}' :: rest) = some (name, rest) :=
    Text.breakAt?_eq_some_iff.mpr ⟨rfl, closed⟩
  rw [boundReference?, broken]

/-- Behind a brace that it has passed, substitution goes through the name and the closing brace,
and on as at the start. -/
theorem substituteAfter_recovered {name : Text} (closed : '}' ∉ name) (backslashes : '\\' ∉ name)
    (rest : Text) :
    substituteAfter bindings false (name ++ '}' :: rest) =
      recovered bindings name ++ substituteAfter bindings false rest := by
  induction name with
  | nil => exact substituteAfter_cons (Or.inl (by decide)) rest
  | cons first others inductionHypothesis =>
    obtain ⟨_, closedOthers⟩ := not_or.mp (List.mem_cons.not.mp closed)
    obtain ⟨notBackslash, plainOthers⟩ := not_or.mp (List.mem_cons.not.mp backslashes)
    have later := inductionHypothesis closedOthers plainOthers
    have reference := boundReference?_closing bindings closedOthers rest
    rw [List.cons_append, recovered]
    by_cases brace : first = '{'
    · subst brace
      rw [if_pos rfl]
      cases known : bindings.find? others with
      | some value =>
        rw [known] at reference
        exact substituteAfter_bound reference
      | none =>
        rw [known] at reference
        rw [substituteAfter_unbound reference, later, List.cons_append]
    · have unescaped : (first == '\\') = false := by simpa using Ne.symm notBackslash
      rw [if_neg brace, substituteAfter_cons (Or.inl brace), unescaped, later, List.cons_append]

/-- Substitution replaces a reference or goes through its name. -/
theorem substituteAfter_reference_piece {name : Text} (closed : '}' ∉ name)
    (backslashes : '\\' ∉ name) (rest : Text) :
    substituteAfter bindings false (Piece.written (.reference name) ++ rest) =
      substitutedText bindings (.reference name) ++ substituteAfter bindings false rest := by
  have reference := boundReference?_closing bindings closed rest
  have written : Piece.written (.reference name) ++ rest = '{' :: (name ++ '}' :: rest) := by
    simp [Piece.written]
  rw [written, substitutedText]
  cases known : bindings.find? name with
  | some value =>
    rw [known] at reference
    exact substituteAfter_bound reference
  | none =>
    rw [known] at reference
    rw [substituteAfter_unbound reference, substituteAfter_recovered closed backslashes,
      List.cons_append]

/-- Without backslashes, substitution goes through what canonical pieces are written as piece by
piece. -/
theorem substituteAfter_pieces (bindings : Dictionary Value) {pieces : List Piece}
    (each : ∀ piece ∈ pieces, piece.Canonical)
    (backslashes : '\\' ∉ pieces.flatMap Piece.written) (rest : Text) :
    substituteAfter bindings false (pieces.flatMap Piece.written ++ rest) =
      pieces.flatMap (substitutedText bindings) ++ substituteAfter bindings false rest := by
  induction pieces with
  | nil => rfl
  | cons piece others inductionHypothesis =>
    obtain ⟨here, remaining⟩ := List.forall_mem_cons.mp each
    rw [List.flatMap_cons, List.mem_append, not_or] at backslashes
    have later := inductionHypothesis remaining backslashes.2
    rw [List.flatMap_cons, List.flatMap_cons, List.append_assoc, List.append_assoc, ← later]
    cases here with
    | run first run plain unmarked =>
      exact substituteAfter_neutral
        (neutral_of_isPlain (List.forall_mem_cons.mpr ⟨plain, unmarked⟩)) _
    | escape second => simp [Piece.written] at backslashes
    | reference name closed unquoted =>
      have absent : '\\' ∉ name := fun inside => backslashes.1 (by simp [Piece.written, inside])
      exact substituteAfter_reference_piece closed absent _

/-- What substitution makes of the inside of a string without backslashes. -/
theorem substitute_of_readPieces {body : Text} {pieces : List Piece}
    (closed : readPieces (body ++ ['"']) = .ok (pieces, [])) (backslashes : '\\' ∉ body)
    (bindings : Dictionary Value) :
    substitute bindings body = pieces.flatMap (substitutedText bindings) := by
  obtain ⟨canonical, whole⟩ := readPieces_eq_ok_iff.mp closed
  obtain rfl : body = pieces.flatMap Piece.written := List.append_cancel_right whole
  have passed := substituteAfter_pieces bindings canonical.each backslashes []
  rw [List.append_nil] at passed
  simpa [substitute, substituteAfter.eq_def bindings false []] using passed

/-- Substitution leaves a name alone, with its closing brace, if no variable is nested in it. -/
theorem recovered_of_not_nestsKnown {name : Text} (apart : ¬NestsKnown bindings.keys name) :
    recovered bindings name = name ++ ['}'] := by
  induction name with
  | nil => rfl
  | cons first rest inductionHypothesis =>
    obtain ⟨unknown, others⟩ := not_or.mp (nestsKnown_cons_iff.not.mp apart)
    rw [recovered, inductionHypothesis others, List.cons_append]
    by_cases brace : first = '{'
    · have unbound : bindings.find? rest = none :=
        Dictionary.find?_eq_none_iff.mpr fun known => unknown ⟨brace, known⟩
      rw [if_pos brace, unbound, brace]
    · rw [if_neg brace]

variable {names : List Text}

/-- Blank variables lengthen no name. -/
theorem length_recovered_blank_le (names : List Text) (name : Text) :
    (recovered (blank names) name).length ≤ name.length + 1 := by
  induction name with
  | nil => exact Nat.le_refl _
  | cons first rest inductionHypothesis =>
    rw [recovered, find?_blank]
    by_cases brace : first = '{'
    · by_cases known : rest ∈ names
      · simp [brace, known, Value.text]
      · simpa [brace, known] using inductionHypothesis
    · simpa [brace] using inductionHypothesis

/-- A blank variable nested in a name shortens it. -/
theorem length_recovered_blank_lt {name : Text} (nested : NestsKnown names name) :
    (recovered (blank names) name).length < name.length + 1 := by
  induction name with
  | nil => exact absurd nested not_nestsKnown_nil
  | cons first rest inductionHypothesis =>
    rw [recovered, find?_blank]
    by_cases known : first = '{' ∧ rest ∈ names
    · simp [known, Value.text]
    · have later := (nestsKnown_cons_iff.mp nested).resolve_left known
      have shorter := inductionHypothesis later
      by_cases brace : first = '{'
      · have unknown : rest ∉ names := fun member => known ⟨brace, member⟩
        simpa [brace, unknown] using shorter
      · simpa [brace] using shorter

/-- When all variables are blank, substitution makes no more of a piece than the reader does. -/
theorem length_substitutedText_blank_le (names : List Text) (functions : Dictionary TextFunction)
    (piece : Piece) :
    (substitutedText (blank names) piece).length ≤
      (Scope.pieceText ⟨blank names, functions⟩ piece).length := by
  cases piece with
  | text content => exact Nat.le_refl _
  | reference name =>
    have bound := length_recovered_blank_le names name
    rw [substitutedText, Scope.pieceText, Scope.referenceText, find?_blank]
    by_cases known : name ∈ names
    · simp [known]
    · simpa [known] using bound

/-- Where no variable is nested in an unknown reference, substitution and the reader of strings
make the same of a piece. -/
theorem substitutedText_eq_pieceText {scope : Scope} {piece : Piece}
    (apart : ∀ name, piece = .reference name → name ∉ scope.bindings.keys →
      ¬NestsKnown scope.bindings.keys name) :
    substitutedText scope.bindings piece = scope.pieceText piece := by
  cases piece with
  | text content => rfl
  | reference name =>
    rw [substitutedText, Scope.pieceText]
    cases bound : scope.bindings.find? name with
    | some value => rw [Scope.referenceText_of_find? bound]
    | none =>
      have unknown : name ∉ scope.bindings.keys := by
        intro listed
        obtain ⟨value, found⟩ := Dictionary.mem_keys_iff.mp listed
        rw [bound] at found
        exact absurd found (by simp)
      rw [Scope.referenceText_of_not_mem unknown, List.cons_append,
        recovered_of_not_nestsKnown (apart name rfl unknown)]

/-- A string that is read as the only argument of a call, and in which no quote stands, is closed
by the quote behind it. -/
theorem readPieces_of_quotes_absent {body left : Text} {pieces : List Piece} (quotes : '"' ∉ body)
    (read : readArguments true ('"' :: (body ++ ['"'])) = .ok ([.quoted pieces], left)) :
    readPieces (body ++ ['"']) = .ok (pieces, []) := by
  obtain ⟨each, _, _, extra, _, whole⟩ := (readArguments_eq_ok_iff (by simp)).mp read
  have split : body ++ ['"'] = pieces.flatMap Piece.written ++ '"' :: (extra ++ left) := by
    simpa [writtenArguments_singleton, Argument.written] using whole
  have ended : extra ++ left = [] := by
    rcases append_cons_cases split with ⟨between, inside, _⟩ | ⟨between, _, last⟩
    · exact absurd (by simp [inside]) quotes
    · cases between with
      | nil => exact (List.cons.inj last).2.symm
      | cons => simp at last
  rw [split, ended]
  exact readPieces_of_canonical (each _ List.mem_cons_self) []

/-- A reference means the same in quotes as in running text, whatever values the variables of
these names have, exactly if no reference to an unknown name has the name of a variable nested
in it.

Proof: both readers go through the text by the same pieces, and differ at most on references to
unknown names. If no variable is nested in one of these, substitution leaves it alone. Otherwise
let all variables be blank. Then substitution makes no more of any piece than the reader of
strings, and less of the reference in question, so the whole comes out shorter. -/
theorem references_agree_iff (function body : Text) (names : List Text) (pieces : List Piece)
    (colons : ':' ∉ function) (functionBackslashes : '\\' ∉ function)
    (backslashes : '\\' ∉ body) (quotes : '"' ∉ body)
    (read : ∃ call, Call.read? (quotedCall function body) 0 = some (.ok call) ∧
      call.arguments = [.quoted pieces]) :
    (∀ scope : Scope, (∀ name, name ∈ scope.bindings.keys ↔ name ∈ names) →
        scope.argumentText (.quoted pieces) = substitute scope.bindings body) ↔
      ∀ name, .reference name ∈ pieces → name ∉ names → ¬NestsKnown names name := by
  obtain ⟨call, found, only⟩ := read
  obtain ⟨_, left, _, complete, _⟩ := (read?_quotedCall colons functionBackslashes).mp found
  have closed := readPieces_of_quotes_absent quotes (only ▸ complete)
  have substituted := substitute_of_readPieces closed backslashes
  constructor
  · intro agree name member unknown nested
    have same := agree ⟨blank names, .empty⟩ fun _ => Dictionary.mem_keys_tabulate
    rw [substituted] at same
    have bound (piece : Piece) (_ : piece ∈ pieces) :=
      length_substitutedText_blank_le names .empty piece
    have alike := eq_of_flatMap_eq bound same.symm (.reference name) member
    have shorter := length_recovered_blank_lt nested
    rw [substitutedText, find?_blank, if_neg unknown, Scope.pieceText, referenceText_blank,
      if_neg unknown] at alike
    have lengths := congrArg List.length alike
    simp at lengths
    omega
  · intro apart scope keys
    rw [substituted, Scope.argumentText]
    refine List.flatMap_congr fun piece member => (substitutedText_eq_pieceText ?_).symm
    rintro name rfl unknown ⟨front, inner, parts, known⟩
    have unlisted : name ∉ names := fun listed => unknown ((keys name).mpr listed)
    exact apart name member unlisted ⟨front, inner, parts, (keys inner).mp known⟩

/-- A known reference between unknown ones, one of them with a brace inside, one with no name and
one with a name of two bytes, and a closing brace that nothing opens. -/
theorem references_agree_iff_mixed :
    let function : Text := ['g', '{', '"']
    let body : Text :=
      ['}', '{', 'x', '}', '{', 'a', '{', 'y', '}', '{', '}', 'x', '}', '{', 'é', '}']
    let names : List Text := [['x']]
    let pieces : List Piece := [.text ['}'], .reference ['x'], .reference ['a', '{', 'y'],
      .reference [], .text ['x', '}'], .reference ['é']]
    ':' ∉ function ∧ '\\' ∉ function ∧ '\\' ∉ body ∧ '"' ∉ body ∧
      (∃ call, Call.read? (quotedCall function body) 0 = some (.ok call) ∧
        call.arguments = [.quoted pieces]) ∧
      ∀ scope : Scope, (∀ name, name ∈ scope.bindings.keys ↔ name ∈ names) →
        scope.argumentText (.quoted pieces) = substitute scope.bindings body := by
  intro function body names pieces
  have colons : ':' ∉ function := by decide
  have functionBackslashes : '\\' ∉ function := by decide
  have backslashes : '\\' ∉ body := by decide
  have quotes : '"' ∉ body := by decide
  have closed : readPieces (body ++ ['"']) = .ok (pieces, []) := by cbv
  obtain ⟨call, found, only, _⟩ := (read?_quotedCall_iff colons functionBackslashes).mpr closed
  have read : ∃ call, Call.read? (quotedCall function body) 0 = some (.ok call) ∧
      call.arguments = [.quoted pieces] := ⟨call, found, only⟩
  have apart (name : Text) (member : .reference name ∈ pieces) :
      name ∉ names → ¬NestsKnown names name := by
    simp only [pieces, List.mem_cons, Piece.reference.injEq, reduceCtorEq, List.not_mem_nil,
      false_or, or_false] at member
    rcases member with rfl | rfl | rfl | rfl <;> decide
  exact ⟨colons, functionBackslashes, backslashes, quotes, read,
    (references_agree_iff function body names pieces colons functionBackslashes backslashes quotes
      read).mpr apart⟩

/-- A reference does not always mean the same: in running text, substitution finds the variable
that is nested in an unknown name. -/
theorem argumentText_ne_substitute_nested :
    let function : Text := ['f']
    let body : Text := ['{', 'a', '{', 'x', '}']
    let pieces : List Piece := [.reference ['a', '{', 'x']]
    let scope : Scope := ⟨.ofList [(['x'], .string ['v'])], .empty⟩
    ':' ∉ function ∧ '\\' ∉ function ∧ '\\' ∉ body ∧ '"' ∉ body ∧
      (∃ call, Call.read? (quotedCall function body) 0 = some (.ok call) ∧
        call.arguments = [.quoted pieces]) ∧
      scope.argumentText (.quoted pieces) ≠ substitute scope.bindings body := by
  intro function body pieces scope
  have colons : ':' ∉ function := by decide
  have functionBackslashes : '\\' ∉ function := by decide
  have closed : readPieces (body ++ ['"']) = .ok (pieces, []) := by cbv
  obtain ⟨call, found, only, _⟩ := (read?_quotedCall_iff colons functionBackslashes).mpr closed
  refine ⟨colons, functionBackslashes, by decide, by decide, ⟨call, found, only⟩, ?_⟩
  have kept : scope.argumentText (.quoted pieces) = ['{', 'a', '{', 'x', '}'] := by decide
  have replaced : substitute scope.bindings body = ['{', 'a', 'v'] := by
    rw [substitute_of_readPieces closed (by decide)]
    decide
  rw [kept, replaced]
  decide

end Phrasebook.Template
