import Phrasebook.Proofs.Resolution
import Phrasebook.Proofs.Slices

/-!
# Rendering by byte offsets

The search for calls, the reader of a call, the replacement of a call and the loop over all sites
are written down here by byte offsets, as protection, substitution and stripping are. Offsets are
handed from one step to the next, and from one text to the next: the sites are found in the
template and used in the texts that the calls leave behind.

Every slice is found. The reader always stops between two characters, a replacement changes
nothing in front of the call, and so each site that is still to come stays where a character
begins. Only an offset that is handed in from outside can miss: then there is no slice, and the
library answers in the same way.
-/

namespace Phrasebook.Template

open Text (minus?)

/-- Whether a call to the named function begins in the text at a byte offset, from which on `rest`
stands. -/
def startsCallAt (text : Text) (index : Nat) (rest name : Text) : Bool :=
  match name.isPrefixOf? rest with
  | some (':' :: opener :: _) =>
    !name.isEmpty && !isEscaped text (index + name.width) && (opener == '"' || opener == '{')
  | _ => false

/-- The offsets among the given ones where a call begins. -/
def sitesAmong? (names : List Text) (text : Text) : List Nat → Option (List Nat)
  | [] => some []
  | index :: others => do
    let rest ← text.upFrom? index
    let found ← sitesAmong? names text others
    some (if names.any (startsCallAt text index rest) then index :: found else found)

/-- The sites of a text, by going through the offsets of its characters from the last one. -/
def callSitesByOffset? (names : List Text) (text : Text) : Option (List Nat) :=
  sitesAmong? names text ((Text.charOffsets 0 text).map Prod.fst).reverse

/-- The offset of the first colon that is not escaped, at or behind the start. -/
def separator? (text : Text) (start : Nat) : Option (Option Nat) := do
  let rest ← text.upFrom? start
  some (((Text.charOffsets start rest).find? fun entry =>
    entry.2 == ':' && !isEscaped text entry.1).map Prod.fst)

/-- An argument in front of the arguments that follow it. -/
def prepend (argument : Argument) :
    Except (Unclosed × Nat) (List Argument × Nat) → Except (Unclosed × Nat) (List Argument × Nat)
  | .error failure => .error failure
  | .ok (arguments, stop) => .ok (argument :: arguments, stop)

/-- Goes on to read arguments at a byte offset. Behind the opening, a colon without an argument in
front stands for an empty one. -/
def argumentTurn? (text : Text) (opening cursor : Nat) :
    Option (Turn Nat (Except (Unclosed × Nat) (List Argument × Nat))) := do
  match readArgument (← text.upFrom? cursor) with
  | .error unclosed => some (.last (.error (unclosed, cursor)))
  | .ok none =>
    let rest ← text.upFrom? cursor
    if rest.head? = some ':' ∧ opening < cursor then some (.more (prepend .empty) (cursor + 1))
    else some (.last (.ok ([], cursor)))
  | .ok (some (argument, left)) =>
    let behind ← minus? text.width left.width
    let rest ← text.upFrom? behind
    if rest.head? = some ':' then some (.more (prepend argument) (behind + 1))
    else some (.last (.ok ([argument], behind)))

/-- Reads the call at a byte offset of a text. -/
def Call.readByOffset? (text : Text) (start : Nat) : Option (Except Fault Call) := do
  match ← separator? text start with
  | none => some (.error (.missingSeparator start))
  | some separator =>
    let name ← text.between? start separator
    let opening := separator + 1
    match ← takeTurns? (text.width - ·) (argumentTurn? text opening) opening with
    | .error (unclosed, offset) => some (.error (unclosed.fault name offset))
    | .ok (arguments, cursor) =>
      let rest ← text.upFrom? cursor
      some (.ok ⟨name, arguments, start, cursor, Trailing.of? rest⟩)

/-- Puts the protected result of a call in its place. -/
def Scope.spliceByOffset? (scope : Scope) (text : Text) (call : Call) (result : Text) :
    Option (Text × Splice) := do
  let before ← text.upTo? call.start
  let freed := call.trailing = some .colon ∧ ¬Text.endsWithName scope.functions.keys result
  let replacement := if freed then result ++ [':'] else result
  let stop := if freed then call.stop + 2 else call.stop
  let after ← text.upFrom? stop
  some (before ++ replacement ++ after,
    ⟨call.start, stop, Text.width before + Text.width replacement⟩)

/-- Resolves the call at a byte offset of a text. -/
def Scope.resolveByOffset? (scope : Scope) (text : Text) (start : Nat) :
    Option (Except CallError (Option (Text × Splice))) := do
  match ← Call.readByOffset? text start with
  | .error fault => some (.error (.malformed fault))
  | .ok call =>
    match scope.functions.find? call.name with
    | none => some (.ok none)
    | some function =>
      match function (call.arguments.map scope.argumentText) with
      | none => some (.error (.noResult call.name))
      | some result =>
        let inert ← protectByOffset? scope.functions.keys scope.bindings.keys result
        let spliced ← scope.spliceByOffset? text call inert
        some (.ok (some spliced))

/-- The place in the earlier text of an offset in the later one. -/
def Splice.traceByOffset? (splice : Splice) (offset : Nat) : Option Nat :=
  if splice.landed ≤ offset then (minus? offset splice.landed).map (· + splice.stop)
  else if splice.start < offset then some splice.start
  else some offset

/-- Resolves one more call; a fault is reported at its place in the template. -/
def Progress.stepByOffset? (scope : Scope) (progress : Progress) (start : Nat) :
    Option (Except CallError Progress) := do
  match ← scope.resolveByOffset? progress.text start with
  | .error (.malformed fault) =>
    let offset ← progress.splices.foldlM (fun offset splice => splice.traceByOffset? offset)
      fault.offset
    some (.error (.malformed (fault.moveTo offset)))
  | .error error => some (.error error)
  | .ok none => some (.ok progress)
  | .ok (some (text, splice)) => some (.ok ⟨text, splice :: progress.splices⟩)

/-- Resolves the calls at the given sites, one after the other. -/
def resolveSitesByOffset? (scope : Scope) :
    List Nat → Progress → Option (Except CallError Progress)
  | [], progress => some (.ok progress)
  | site :: others, progress => do
    match ← progress.stepByOffset? scope site with
    | .error error => some (.error error)
    | .ok next => resolveSitesByOffset? scope others next

/-- Renders a template by byte offsets. -/
def renderByOffset? (scope : Scope) (template : Text) : Option (Except CallError Text) := do
  let sites ← callSitesByOffset? scope.functions.keys template
  match ← resolveSitesByOffset? scope sites ⟨template, []⟩ with
  | .error error => some (.error error)
  | .ok progress =>
    let substituted ← substituteByOffset? scope.bindings progress.text
    let stripped ← stripByOffset? substituted
    some (.ok (Text.trim stripped))

variable {names : List Text}

/-- A call begins at an offset exactly if it begins the text behind it. -/
theorem startsCallAt_append (before after name : Text) :
    startsCallAt (before ++ after) (Text.width before) after name = startsCall name after := by
  rw [Bool.eq_iff_iff, startsCall_eq_true_iff, startsCallAt]
  have last (nonempty : name ≠ []) : (before ++ name).getLast? = name.getLast? := by
    rw [List.getLast?_append, List.getLast?_eq_some_getLast nonempty, Option.some_or]
  constructor
  · intro begins
    split at begins
    · rename_i opener rest found
      obtain rfl := List.isPrefixOf?_eq_some_iff_append_eq.mp found
      have escape := isEscaped_append (before ++ name) (':' :: opener :: rest)
      rw [List.append_assoc, Text.width_append] at escape
      simp only [escape, Bool.and_eq_true, Bool.not_eq_true', List.isEmpty_eq_false_iff,
        beq_eq_false_iff_ne, Bool.or_eq_true, beq_iff_eq] at begins
      obtain ⟨⟨nonempty, bare⟩, opens⟩ := begins
      exact ⟨nonempty, last nonempty ▸ bare, opener, rest, opens, rfl⟩
    · exact absurd begins (by simp)
  · rintro ⟨nonempty, bare, opener, rest, opens, rfl⟩
    have found : name.isPrefixOf? (name ++ ':' :: opener :: rest) = some (':' :: opener :: rest) :=
      List.isPrefixOf?_eq_some_iff_append_eq.mpr rfl
    have escape := isEscaped_append (before ++ name) (':' :: opener :: rest)
    rw [List.append_assoc, Text.width_append, last nonempty] at escape
    have opening : opener = '"' ∨ opener = '{' := opens
    simp [found, escape, nonempty, bare, opening]

/-- At each of these offsets a slice begins. -/
theorem upFrom?_isSome_of_mem_charOffsets {before after : Text} {index : Nat} {character : Char}
    (member : (index, character) ∈ Text.charOffsets (Text.width before) after) :
    (Text.upFrom? (before ++ after) index).isSome := by
  induction after generalizing before with
  | nil => simp [Text.charOffsets] at member
  | cons first rest inductionHypothesis =>
    rcases List.mem_cons.mp member with here | later
    · obtain ⟨rfl, rfl⟩ := Prod.mk.inj here
      simp
    · rw [← Text.width_append_singleton] at later
      simpa using inductionHypothesis later

/-- Where all offsets have slices, those remain at which a call begins. -/
theorem sitesAmong?_eq {text : Text} {indices : List Nat}
    (within : ∀ index ∈ indices, (text.upFrom? index).isSome) :
    sitesAmong? names text indices = some (indices.filter fun index =>
      (text.upFrom? index).any fun rest => names.any (startsCallAt text index rest)) := by
  induction indices with
  | nil => rfl
  | cons index others inductionHypothesis =>
    obtain ⟨here, remaining⟩ := List.forall_mem_cons.mp within
    obtain ⟨rest, found⟩ := Option.isSome_iff_exists.mp here
    rw [sitesAmong?, found, inductionHypothesis remaining, List.filter_cons, found]
    rfl

/-- The search for sites keeps the offsets at which a call begins, the last one in front. -/
theorem callSitesFrom_eq (names : List Text) (found : List Nat) (before after : Text) :
    callSitesFrom names found (Text.width before) after =
      (((Text.charOffsets (Text.width before) after).map Prod.fst).filter fun index =>
        (Text.upFrom? (before ++ after) index).any fun rest =>
          names.any (startsCallAt (before ++ after) index rest)).reverse ++ found := by
  induction after generalizing before found with
  | nil => rfl
  | cons first rest inductionHypothesis =>
    have later (found : List Nat) := inductionHypothesis found (before ++ [first])
    simp only [Text.width_append_singleton, List.append_assoc, List.singleton_append] at later
    have here : ((Text.upFrom? (before ++ first :: rest) (Text.width before)).any fun behind =>
        names.any (startsCallAt (before ++ first :: rest) (Text.width before) behind)) =
          names.any fun name => startsCall name (first :: rest) := by
      rw [Text.upFrom?_append, Option.any_some,
        funext (startsCallAt_append before (first :: rest))]
    rw [callSitesFrom, later, Text.charOffsets, List.map_cons, List.filter_cons, here]
    split <;> simp

/-- Searching by offsets finds all its slices, and the sites. -/
theorem callSitesByOffset?_eq (names : List Text) (text : Text) :
    callSitesByOffset? names text = some (callSites names text) := by
  have within : ∀ index ∈ ((Text.charOffsets 0 text).map Prod.fst).reverse,
      (text.upFrom? index).isSome := by
    intro index member
    obtain ⟨⟨_, character⟩, listed, rfl⟩ := List.mem_map.mp (List.mem_reverse.mp member)
    exact @upFrom?_isSome_of_mem_charOffsets [] text _ character listed
  have listed := callSitesFrom_eq names [] [] text
  rw [callSitesByOffset?, sitesAmong?_eq within, List.filter_reverse, callSites]
  simpa [Text.width] using listed.symm

/-- The separator lies behind the name, as many bytes as the name is wide. -/
theorem separator?_append (before after : Text) :
    separator? (before ++ after) (Text.width before) =
      some ((readName? (before.getLast? == some '\\') after).map fun parts =>
        Text.width before + Text.width parts.1) := by
  rw [separator?, Text.upFrom?_append]
  refine congrArg some ?_
  induction after generalizing before with
  | nil => rfl
  | cons first rest inductionHypothesis =>
    have later := inductionHypothesis (before ++ [first])
    rw [Text.width_append_singleton, List.append_assoc, List.singleton_append,
      List.getLast?_concat] at later
    rw [Text.charOffsets, List.find?_cons, readName?]
    simp only [isEscaped_append]
    by_cases separates : (first == ':' && !(before.getLast? == some '\\')) = true
    · simp [separates, Text.width]
    · simp only [separates, later, Bool.false_eq_true, if_false, Option.map_map]
      refine Option.map_congr fun parts _ => ?_
      simp [Text.width, Nat.add_assoc]

/-- What the reader of arguments answers, as offsets in a text of which it reads the end. -/
def located (text : Text) : Except (Unclosed × Text) (List Argument × Text) →
    Except (Unclosed × Nat) (List Argument × Nat)
  | .error (unclosed, opening) => .error (unclosed, text.width - opening.width)
  | .ok (arguments, left) => .ok (arguments, text.width - left.width)

/-- Locating an answer leaves an argument in front of it where it is. -/
theorem located_following (text : Text) (argument : Argument)
    (answer : Except (Unclosed × Text) (List Argument × Text)) :
    located text (Text.following argument answer) = prepend argument (located text answer) := by
  rcases answer with failure | ⟨arguments, left⟩
  · rfl
  · rfl

/-- Without an argument, reading ends, except at a separator behind the first argument. -/
theorem readArguments_ended {first : Bool} {rest : Text} (none : readArgument rest = .ok none)
    (ended : ¬(rest.head? = some ':' ∧ first = false)) :
    readArguments first rest = .ok ([], rest) := by
  by_cases colon : rest.head? = some ':'
  · obtain ⟨others, rfl⟩ := List.head?_eq_some_iff.mp colon
    obtain rfl : first = true := by simpa using ended
    rw [readArguments.eq_def]
    rfl
  · exact readArguments_none colon none

/-- Behind more characters the first argument is past. -/
theorem decide_width_append_le {opening : Nat} {before consumed : Text}
    (behind : opening ≤ Text.width before) (nonempty : consumed ≠ []) :
    decide (Text.width (before ++ consumed) ≤ opening) = false := by
  have positive : Text.width consumed ≠ 0 :=
    fun nothing => nonempty (Text.width_eq_zero_iff.mp nothing)
  rw [decide_eq_false_iff_not, Text.width_append]
  omega

/-- A turn of the reader at an argument with a separator behind it goes on behind both. -/
theorem argumentTurn?_more {opening : Nat} {before others : Text} {argument : Argument}
    (read : readArgument (argument.written ++ ':' :: others) =
      .ok (some (argument, ':' :: others))) :
    argumentTurn? (before ++ (argument.written ++ ':' :: others)) opening (Text.width before) =
      some (.more (prepend argument) (Text.width (before ++ (argument.written ++ [':'])))) := by
  have stop := Text.minus?_width_append (before ++ argument.written) (':' :: others)
  have rest := Text.upFrom?_append (before ++ argument.written) (':' :: others)
  rw [List.append_assoc] at stop rest
  have landed : Text.width (before ++ (argument.written ++ [':'])) =
      Text.width (before ++ argument.written) + 1 := by
    rw [← List.append_assoc, Text.width_append_singleton]
    rfl
  simp [argumentTurn?, read, stop, rest, landed]

/-- A turn of the reader at an argument with no separator behind it is the last. -/
theorem argumentTurn?_last {opening : Nat} {before left : Text} {argument : Argument}
    (read : readArgument (argument.written ++ left) = .ok (some (argument, left)))
    (ended : left.head? ≠ some ':') :
    argumentTurn? (before ++ (argument.written ++ left)) opening (Text.width before) =
      some (.last (.ok ([argument], Text.width (before ++ argument.written)))) := by
  have stop := Text.minus?_width_append (before ++ argument.written) left
  have rest := Text.upFrom?_append (before ++ argument.written) left
  rw [List.append_assoc] at stop rest
  simp [argumentTurn?, read, stop, rest, ended]

/-- A turn of the reader reads as the reader does, and leaves an offset behind what it has read. -/
theorem argumentTurn?_append {opening : Nat} {before : Text} (after : Text)
    (behind : opening ≤ Text.width before) :
    argumentTurn? (before ++ after) opening (Text.width before) = some (.last
        (located (before ++ after) (readArguments (decide (Text.width before ≤ opening)) after))) ∨
      ∃ extend consumed others, after = consumed ++ others ∧ consumed ≠ [] ∧
        argumentTurn? (before ++ after) opening (Text.width before) =
          some (.more extend (Text.width (before ++ consumed))) ∧
        located (before ++ after) (readArguments (decide (Text.width before ≤ opening)) after) =
          extend (located (before ++ after)
            (readArguments (decide (Text.width (before ++ consumed) ≤ opening)) others)) := by
  cases read : readArgument after with
  | error unclosed =>
    refine Or.inl ?_
    rw [readArguments_unclosed read]
    simp [argumentTurn?, read, located, Text.width_append]
  | ok begun =>
    cases begun with
    | none =>
      by_cases separated : after.head? = some ':' ∧ opening < Text.width before
      · obtain ⟨colon, later⟩ := separated
        obtain ⟨rest, rfl⟩ := List.head?_eq_some_iff.mp colon
        have single : (':').utf8Size = 1 := rfl
        refine Or.inr ⟨prepend .empty, [':'], rest, rfl, by simp, ?_, ?_⟩
        · simp [argumentTurn?, read, later, Text.width_append_singleton, single]
        · have here : decide (Text.width before ≤ opening) = false := by simpa using later
          rw [here, decide_width_append_le behind (by simp), readArguments_separator,
            located_following]
      · refine Or.inl ?_
        have ended : ¬(after.head? = some ':' ∧ decide (Text.width before ≤ opening) = false) := by
          simpa using separated
        rw [readArguments_ended read ended]
        simp [argumentTurn?, read, separated, located, Text.width_append]
    | some parts =>
      obtain ⟨argument, left⟩ := parts
      obtain rfl := eq_append_of_readArgument read
      by_cases separated : left.head? = some ':'
      · obtain ⟨others, rfl⟩ := List.head?_eq_some_iff.mp separated
        refine Or.inr ⟨prepend argument, argument.written ++ [':'], others, by simp, by simp,
          argumentTurn?_more read, ?_⟩
        rw [decide_width_append_le behind (by simp), readArguments_more read, located_following]
      · have measured := Text.width_append_sub (before ++ argument.written) left
        rw [List.append_assoc] at measured
        rw [readArguments_last read separated, located, measured]
        exact Or.inl (argumentTurn?_last read separated)

/-- Reading arguments by offsets finds all its slices, and reads. -/
theorem takeTurns?_argumentTurn? (before after : Text) :
    takeTurns? ((before ++ after).width - ·) (argumentTurn? (before ++ after) (Text.width before))
        (Text.width before) =
      some (located (before ++ after) (readArguments true after)) := by
  have taken : takeTurns? ((before ++ after).width - ·)
      (argumentTurn? (before ++ after) (Text.width before)) (Text.width before) =
        some (located (before ++ after)
          (readArguments (decide (Text.width before ≤ Text.width before)) after)) := by
    refine takeTurns?_along (fun front back => located (before ++ after)
      (readArguments (decide (Text.width front ≤ Text.width before)) back)) ?_ rfl (Nat.le_refl _)
    intro front back whole behind
    rw [whole]
    exact argumentTurn?_append back behind
  rwa [decide_eq_true (Nat.le_refl _)] at taken

/-- Reading a call by offsets finds all its slices if the start lies between two characters, and
reads. -/
theorem Call.readByOffset?_eq (text : Text) (start : Nat) :
    Call.readByOffset? text start = Call.read? text start := by
  cases cut : text.cut? start with
  | none => simp [Call.readByOffset?, separator?, Text.upFrom?, Call.read?, cut]
  | some parts =>
    obtain ⟨before, after⟩ := parts
    obtain ⟨rfl, rfl⟩ := Text.eq_append_of_cut? cut
    rw [read?_append, Call.readHere, Call.readByOffset?, separator?_append]
    cases named : readName? (before.getLast? == some '\\') after with
    | none => rfl
    | some parts =>
      obtain ⟨name, written⟩ := parts
      obtain rfl := eq_append_of_readName? named
      have between := Text.between?_append before name (':' :: written)
      have looped := takeTurns?_argumentTurn? (before ++ name ++ [':']) written
      have opening : Text.width (before ++ name ++ [':']) =
          Text.width before + Text.width name + 1 := by
        rw [Text.width_append_singleton, Text.width_append]
        rfl
      rw [List.append_assoc] at between
      rw [opening, List.append_assoc, List.append_assoc, List.singleton_append] at looped
      simp only [Option.map_some, Option.bind_eq_bind, Option.bind_some, between, looped]
      cases complete : readArguments true written with
      | error failure =>
        obtain ⟨unclosed, opening⟩ := failure
        obtain ⟨_, taken, rfl⟩ := failing_of_readArguments complete
        have measured := Text.width_append_sub (before ++ (name ++ ':' :: taken)) opening
        have offset := Text.width_add_sub_width before (name ++ ':' :: taken) opening
        simp only [List.append_assoc, List.cons_append] at measured offset
        simp only [located, measured, offset]
      | ok reading =>
        obtain ⟨arguments, left⟩ := reading
        obtain ⟨taken, rfl⟩ := suffix_of_readArguments complete
        have measured := Text.width_append_sub (before ++ (name ++ ':' :: taken)) left
        have offset := Text.width_add_sub_width before (name ++ ':' :: taken) left
        have rest := Text.upFrom?_append (before ++ (name ++ ':' :: taken)) left
        simp only [List.append_assoc, List.cons_append] at measured offset rest
        simp only [located, measured, offset, rest, Option.bind_some]

/-- A call that is read takes up some characters of the text, from the place between two
characters where it was read up to another such place. -/
theorem parts_of_read?_eq_ok {text : Text} {start : Nat} {call : Call}
    (read : Call.read? text start = some (.ok call)) :
    ∃ before spanned left, text = before ++ (spanned ++ left) ∧ spanned ≠ [] ∧
      start = Text.width before ∧ call.start = Text.width before ∧
      call.stop = Text.width (before ++ spanned) ∧ call.trailing = Trailing.of? left := by
  obtain ⟨before, name, taken, left, rfl, rfl, _, same⟩ := exists_parts_of_read? read
  refine ⟨before, name ++ ':' :: taken, left, by simp, by simp, rfl, ?_, ?_, ?_⟩
  · rw [same]
  · rw [same, List.append_assoc]
  · rw [same]

/-- Where the library replaces a call, both slices around the call are found. -/
theorem Scope.spliceByOffset?_eq {scope : Scope} {text result : Text} {call : Call}
    {spliced : Text × Splice} (replaced : scope.splice text call result = .ok spliced) :
    scope.spliceByOffset? text call result = some spliced := by
  simp only [Scope.splice, cutAt, bind, Except.bind, pure, Except.pure] at replaced
  simp only [Scope.spliceByOffset?, Text.upTo?, Text.upFrom?, Option.bind_eq_bind]
  cases front : text.cut? call.start with
  | none => simp [front] at replaced
  | some parts =>
    simp only [front] at replaced
    split at replaced
    · simp at replaced
    · rename_i found
      split at found
      · rename_i back
        obtain rfl := Except.ok.inj found
        simp only [Option.map_some, Option.bind_some, back]
        exact congrArg some (Except.ok.inj replaced)
      · simp at found

/-- Resolving a call by offsets finds all its slices if the start lies between two characters, and
resolves. -/
theorem Scope.resolveByOffset?_eq (scope : Scope) (text : Text) (start : Nat) :
    scope.resolveByOffset? text start =
      (text.cut? start).map fun _ => scope.resolve text start := by
  rw [Scope.resolveByOffset?, Call.readByOffset?_eq]
  cases cut : text.cut? start with
  | none => simp [Call.read?, cut]
  | some parts =>
    cases read : Call.read? text start with
    | none => simp [Call.read?, cut] at read
    | some answer =>
      cases answer with
      | error fault => simp [Scope.resolve, read]
      | ok call =>
        cases found : scope.functions.find? call.name with
        | none => simp [Scope.resolve, read, found]
        | some function =>
          cases returned : function (call.arguments.map scope.argumentText) with
          | none => simp [Scope.resolve, read, found, returned]
          | some result =>
            obtain ⟨before, spanned, left, rfl, _, _, starts, stops, trails⟩ :=
              parts_of_read?_eq_ok read
            obtain ⟨taken, replacement, rest, _, _, replaced⟩ :=
              splice_eq_ok scope before spanned left
                (protect scope.functions.keys scope.bindings.keys result) call starts stops trails
            have spliced := Scope.spliceByOffset?_eq replaced
            simp [Scope.resolve, read, found, returned, protectByOffset?_eq, spliced, replaced,
              Except.map]

/-- An offset is traced back without going below zero. -/
theorem Splice.traceByOffset?_eq (splice : Splice) (offset : Nat) :
    splice.traceByOffset? offset = some (splice.trace offset) := by
  rw [Splice.traceByOffset?, Splice.trace]
  by_cases behind : splice.landed ≤ offset
  · simp [behind, minus?, Nat.add_comm]
  · by_cases inside : splice.start < offset
    · simp [behind, inside]
    · simp [behind, inside]

/-- An offset is traced back through all splices. -/
theorem traceByOffset?_foldlM_eq (splices : List Splice) (offset : Nat) :
    splices.foldlM (fun offset splice => splice.traceByOffset? offset) offset =
      some (splices.foldl (fun offset splice => splice.trace offset) offset) := by
  induction splices generalizing offset with
  | nil => rfl
  | cons splice others inductionHypothesis =>
    rw [List.foldlM_cons, Splice.traceByOffset?_eq, List.foldl_cons]
    exact inductionHypothesis _

/-- A step by offsets finds all its slices if the site lies between two characters of the text as
it stands, and is a step. -/
theorem Progress.stepByOffset?_eq (scope : Scope) (progress : Progress) (start : Nat) :
    progress.stepByOffset? scope start =
      (progress.text.cut? start).map fun _ => progress.step scope start := by
  rw [Progress.stepByOffset?, Scope.resolveByOffset?_eq, Progress.step]
  cases cut : progress.text.cut? start with
  | none => rfl
  | some parts =>
    simp only [Option.map_some, Option.bind_eq_bind, Option.bind_some]
    cases resolved : scope.resolve progress.text start with
    | error cause =>
      cases cause with
      | misplaced => rfl
      | malformed fault => simp [traceByOffset?_foldlM_eq, Progress.trace]
      | noResult => rfl
    | ok replaced =>
      cases replaced with
      | none => rfl
      | some spliced => rfl

/-- A step leaves every place in front of its site between two characters. -/
theorem isSome_cut?_of_step {scope : Scope} {progress next : Progress} {site earlier : Nat}
    (stepped : progress.step scope site = .ok next) (before : earlier ≤ site)
    (within : (progress.text.cut? earlier).isSome) : (next.text.cut? earlier).isSome := by
  obtain ⟨⟨front, back⟩, cut⟩ := Option.isSome_iff_exists.mp within
  obtain ⟨whole, rfl⟩ := Text.eq_append_of_cut? cut
  obtain ⟨head, tail, parts, rfl, rfl | ⟨taken, replacement, rest, _, _, rfl⟩⟩ :=
    step_cases stepped
  · exact within
  · obtain ⟨between, rfl, _⟩ := Text.between_of_width_le (whole.symm.trans parts) before
    simp only [List.append_assoc, Text.cut?_append, Option.isSome_some]

/-- The loop by offsets finds all its slices if the sites decrease and lie between two characters
of the text as it stands, and is the loop.

Proof: by induction over the sites. A step changes nothing in front of its site, so the sites that
are still to come stay between two characters. -/
theorem resolveSitesByOffset?_eq {scope : Scope} {sites : List Nat} {progress : Progress}
    (descending : sites.Pairwise (· > ·))
    (within : ∀ site ∈ sites, (progress.text.cut? site).isSome) :
    resolveSitesByOffset? scope sites progress =
      some (sites.foldlM (Progress.step scope) progress) := by
  induction sites generalizing progress with
  | nil => rfl
  | cons site others inductionHypothesis =>
    obtain ⟨below, remaining⟩ := List.pairwise_cons.mp descending
    obtain ⟨here, later⟩ := List.forall_mem_cons.mp within
    obtain ⟨parts, cut⟩ := Option.isSome_iff_exists.mp here
    rw [resolveSitesByOffset?, Progress.stepByOffset?_eq, cut, List.foldlM_cons]
    cases stepped : progress.step scope site with
    | error => simp [bind, Except.bind]
    | ok next =>
      have kept : ∀ other ∈ others, (next.text.cut? other).isSome := fun other member =>
        isSome_cut?_of_step stepped (Nat.le_of_lt (below other member)) (later other member)
      simpa [stepped, bind, Except.bind] using inductionHypothesis remaining kept

/-- Rendering by offsets finds all its slices, and renders. -/
theorem renderByOffset?_eq (scope : Scope) (template : Text) :
    renderByOffset? scope template = some (render scope template) := by
  have within : ∀ site ∈ callSites scope.functions.keys template,
      (template.cut? site).isSome := by
    intro site member
    obtain ⟨_, here⟩ := charAt?_of_mem_callSites member
    exact (Text.lt_width_of_charAt? here).2
  have looped : resolveSitesByOffset? scope (callSites scope.functions.keys template)
      ⟨template, []⟩ = some (resolveCalls scope template) :=
    resolveSitesByOffset?_eq (callSites_descending _ _) within
  rw [renderByOffset?, callSitesByOffset?_eq, render]
  simp only [Option.bind_eq_bind, Option.bind_some, looped]
  cases resolveCalls scope template with
  | error cause => rfl
  | ok progress => simp [substituteByOffset?_eq, stripByOffset?_eq, Except.map, finish]

/-- Between two characters a call is never misplaced. -/
theorem resolve_ne_misplaced (scope : Scope) (before after : Text) (offset : Nat) :
    scope.resolve (before ++ after) (Text.width before) ≠ .error (.misplaced offset) := by
  intro broken
  have resolution := resolve_resolution scope before after
  rw [broken] at resolution
  cases resolution

/-- No site of a template is misplaced in the text that the calls behind it leave. -/
theorem render_ne_misplaced (scope : Scope) (template : Text) (offset : Nat) :
    render scope template ≠ .error (.misplaced offset) := by
  intro broken
  obtain ⟨resolved, site, pending, progress, sites, reached, failed⟩ := exists_failing_step broken
  have listed : site ∈ callSites scope.functions.keys template := by simp [sites]
  obtain ⟨before, after, whole, measured, _⟩ := mem_callSites_iff.mp listed
  have behind : ∀ other ∈ resolved, Text.width before ≤ other := by
    intro other member
    obtain ⟨_, later⟩ := (mem_resolved_iff sites other).mp member
    omega
  obtain ⟨remaining, kept⟩ := reached.keeps_front whole behind
  have placed := resolve_ne_misplaced scope before remaining offset
  rw [Progress.step, kept, measured] at failed
  split at failed
  · simp at failed
  · rename_i cause _ answered
    obtain rfl := Except.error.inj failed
    exact placed answered
  · simp at failed
  · simp at failed

/-- Every slice and every difference of offsets is found: in a render of any template, and where
one call is read or resolved from a place between two characters of any text. A call that is read
stops behind that place, at another one or at the end of the text. -/
theorem slices_found (scope : Scope) :
    (∀ template, renderByOffset? scope template = some (render scope template) ∧
      ∀ offset, render scope template ≠ .error (.misplaced offset)) ∧
    (∀ text start, (Text.cut? text start).isSome →
      (∃ answer, Call.readByOffset? text start = some answer ∧
        Call.read? text start = some answer) ∧
      scope.resolveByOffset? text start = some (scope.resolve text start) ∧
      ∀ offset, scope.resolve text start ≠ .error (.misplaced offset)) ∧
    ∀ text start call, Call.read? text start = some (.ok call) →
      start < call.stop ∧ call.stop ≤ Text.width text ∧ (text.cut? call.stop).isSome := by
  refine ⟨fun template => ⟨renderByOffset?_eq scope template, render_ne_misplaced scope template⟩,
    ?_, ?_⟩
  · intro text start within
    obtain ⟨⟨before, after⟩, cut⟩ := Option.isSome_iff_exists.mp within
    obtain ⟨rfl, rfl⟩ := Text.eq_append_of_cut? cut
    refine ⟨⟨_, ?_, read?_append before after⟩, ?_, resolve_ne_misplaced scope before after⟩
    · rw [Call.readByOffset?_eq, read?_append]
    · rw [Scope.resolveByOffset?_eq, cut, Option.map_some]
  · intro text start call read
    obtain ⟨before, spanned, left, rfl, nonempty, rfl, _, stop, _⟩ := parts_of_read?_eq_ok read
    have positive : Text.width spanned ≠ 0 :=
      fun nothing => nonempty (Text.width_eq_zero_iff.mp nothing)
    rw [stop, ← List.append_assoc, Text.cut?_append]
    simp only [Text.width_append, Option.isSome_some, and_true]
    omega

/-- Names, values and results of several bytes, an escaped colon behind a call and a reference
behind it. -/
theorem slices_found_wide :
    let scope : Scope := ⟨.ofList [(['ü'], .string ['€'])],
      .ofList [(['é'], fun arguments => some (arguments.flatten ++ ['𝄞']))]⟩
    let text : Text := ['€', 'é', ':', '"', '{', 'ü', '}', '"', '\\', ':', '{', 'ü', '}']
    let call : Call := ⟨['é'], [.quoted [.reference ['ü']]], 3, 12, some .colon⟩
    (Text.cut? text 3).isSome ∧ Call.read? text 3 = some (.ok call) ∧
      renderByOffset? scope text = some (render scope text) ∧
      scope.resolveByOffset? text 3 = some (scope.resolve text 3) ∧
      3 < call.stop ∧ call.stop ≤ Text.width text ∧ (text.cut? call.stop).isSome := by
  intro scope text call
  have within : (Text.cut? text 3).isSome := by decide
  have argument : readArgument ['"', '{', 'ü', '}', '"', '\\', ':', '{', 'ü', '}'] =
      .ok (some (.quoted [.reference ['ü']], ['\\', ':', '{', 'ü', '}'])) := by cbv
  have named : readName? false (text.drop 1) = some (['é'], text.drop 3) := by decide
  have read : Call.read? text 3 = some (.ok call) :=
    (@read?_append_eq_ok_iff ['€'] _ _ _ _ named).mpr
      ⟨['"', '{', 'ü', '}', '"'], _, rfl, readArguments_last argument (by decide), rfl⟩
  obtain ⟨rendered, placed, stops⟩ := slices_found scope
  exact ⟨within, read, (rendered text).1, (placed text 3 within).2.1, stops text 3 call read⟩

end Phrasebook.Template
