import Phrasebook.Proofs.Escaping
import Phrasebook.Proofs.Levels

/-!
# Texts by byte offsets

A program that keeps a whole text and walks through it by byte offsets takes slices of it. A slice
does not exist if an end of it falls inside a character or beyond the end of the text, or if the
ends are in the wrong order; nor is there a difference of offsets below zero. Here the search for
sites, protection, substitution and stripping are written down once more in this way. Each step
goes to an offset that was computed before, by counting bytes, and everything comes to nothing if
one slice does not exist.

None of this happens. The offsets always fall between two characters, and what is computed by
offsets is what is computed by walking along the characters.
-/

namespace Phrasebook.Text

/-- The text from a byte offset on. -/
def upFrom? (text : Text) (offset : Nat) : Option Text :=
  (text.cut? offset).map Prod.snd

/-- The text up to a byte offset. -/
def upTo? (text : Text) (offset : Nat) : Option Text :=
  (text.cut? offset).map Prod.fst

/-- The text between two byte offsets. -/
def between? (text : Text) (start stop : Nat) : Option Text :=
  (text.upTo? stop).bind fun front => front.upFrom? start

/-- How far one offset lies behind another. -/
def minus? (later earlier : Nat) : Option Nat :=
  if earlier ≤ later then some (later - earlier) else none

/-- The characters of a text with their byte offsets, the first of which is given. -/
def charOffsets (offset : Nat) : Text → List (Nat × Char)
  | [] => []
  | first :: rest => (offset, first) :: charOffsets (offset + first.utf8Size) rest

/-- One more character makes a text as much wider as it takes bytes. -/
theorem width_append_singleton (before : Text) (last : Char) :
    width (before ++ [last]) = width before + last.utf8Size := by
  rw [width_append, width, width, Nat.add_zero]

/-- Behind a part of a text the rest of it begins. -/
@[simp]
theorem upFrom?_append (before after : Text) :
    upFrom? (before ++ after) (width before) = some after := by
  rw [upFrom?, cut?_append]
  rfl

/-- Behind a part of a text and one more character, the rest begins. -/
@[simp]
theorem upFrom?_append_cons (before : Text) (first : Char) (rest : Text) :
    upFrom? (before ++ first :: rest) (width before + first.utf8Size) = some rest := by
  have later := upFrom?_append (before ++ [first]) rest
  rwa [List.append_assoc, List.singleton_append, width_append_singleton] at later

/-- A text is cut off where a part of it ends. -/
@[simp]
theorem upTo?_append (before after : Text) :
    upTo? (before ++ after) (width before) = some before := by
  rw [upTo?, cut?_append]
  rfl

/-- A part of a text lies between the offsets where it begins and ends. -/
theorem between?_append (before between after : Text) :
    between? (before ++ between ++ after) (width before) (width before + width between) =
      some between := by
  rw [between?, ← width_append, upTo?_append, Option.bind_some, upFrom?_append]

/-- A part of a text is as wide as the text without what follows it. -/
theorem width_append_sub (before after : Text) :
    width (before ++ after) - width after = width before := by
  rw [width_append, Nat.add_sub_cancel]

/-- What follows a part of a text is as far from the end as it is wide. -/
@[simp]
theorem minus?_width_append (before after : Text) :
    minus? (width (before ++ after)) (width after) = some (width before) := by
  rw [minus?, width_append_sub, width_append, if_pos (Nat.le_add_left _ _)]

/-- Behind a further part of a text, less remains. -/
theorem remaining_lt {consumed : Text} (before : Text) (nonempty : consumed ≠ []) (others : Text) :
    width (before ++ (consumed ++ others)) - width (before ++ consumed) <
      width (before ++ (consumed ++ others)) - width before := by
  have positive : width consumed ≠ 0 := fun nothing => nonempty (width_eq_zero_iff.mp nothing)
  simp only [width_append]
  omega

end Phrasebook.Text

namespace Phrasebook.Template

open Text (upFrom? upTo? between? minus? charOffsets)

/-- What one turn of a loop does: it ends the loop with an outcome, or goes on in another state and
extends the outcome to come. -/
inductive Turn (σ ω : Type) where
  | last (outcome : ω)
  | more (extend : ω → ω) (next : σ)

/-- Takes turns until one is the last. A turn that does not make the state smaller comes to
nothing. -/
def takeTurns? {σ ω : Type} (size : σ → Nat) (turn : σ → Option (Turn σ ω)) (state : σ) :
    Option ω :=
  match turn state with
  | none => none
  | some (.last outcome) => some outcome
  | some (.more extend next) =>
    if size next < size state then (takeTurns? size turn next).map extend else none
termination_by size state

/-- A loop returns what its states promise, if every promise is kept: a turn either is the last and
returns the outcome, or leaves a smaller state that promises what the turn extends to it.

Proof: by induction on the size of the state. -/
theorem takeTurns?_eq_some {σ ω : Type} {size : σ → Nat} {turn : σ → Option (Turn σ ω)}
    (promises : σ → ω → Prop)
    (kept : ∀ state outcome, promises state outcome →
      turn state = some (.last outcome) ∨
        ∃ extend next inner, turn state = some (.more extend next) ∧ size next < size state ∧
          promises next inner ∧ outcome = extend inner)
    {state : σ} {outcome : ω} (promised : promises state outcome) :
    takeTurns? size turn state = some outcome := by
  rw [takeTurns?]
  rcases kept state outcome promised with
    ended | ⟨extend, next, inner, goes, smaller, remaining, rfl⟩
  · rw [ended]
  · rw [goes]
    simp only [if_pos smaller, takeTurns?_eq_some promises kept remaining, Option.map_some]
termination_by size state

/-- A loop along a text returns, at any offset behind its start, the value of the text in front and
the text behind, if every turn there is the last and returns it, or consumes some characters and
extends the value behind them. -/
theorem takeTurns?_along {ω : Type} {text : Text} {start : Nat} {turn : Nat → Option (Turn Nat ω)}
    (value : Text → Text → ω)
    (each : ∀ before after, text = before ++ after → start ≤ Text.width before →
      turn (Text.width before) = some (.last (value before after)) ∨
        ∃ extend consumed others, after = consumed ++ others ∧ consumed ≠ [] ∧
          turn (Text.width before) = some (.more extend (Text.width (before ++ consumed))) ∧
          value before after = extend (value (before ++ consumed) others))
    {before after : Text} (whole : text = before ++ after) (behind : start ≤ Text.width before) :
    takeTurns? (text.width - ·) turn (Text.width before) = some (value before after) := by
  refine takeTurns?_eq_some
    (fun index outcome => ∃ front back, text = front ++ back ∧ start ≤ Text.width front ∧
      index = Text.width front ∧ outcome = value front back)
    ?_ ⟨before, after, whole, behind, rfl, rfl⟩
  rintro _ _ ⟨front, back, parts, later, rfl, rfl⟩
  rcases each front back parts later with
    ended | ⟨extend, consumed, others, rfl, nonempty, goes, extended⟩
  · exact Or.inl ended
  · refine Or.inr ⟨extend, _, _, goes, ?_,
      ⟨front ++ consumed, others, by rw [parts, List.append_assoc], ?_, rfl, rfl⟩, extended⟩
    · rw [parts]
      exact Text.remaining_lt front nonempty others
    · rw [Text.width_append]
      exact Nat.le_add_right_of_le later

/-- Goes on to protect a text at a byte offset. Behind a reference to a variable the next offset
lies after as many bytes as the name and both braces take. -/
def protectTurn? (functionNames variableNames : List Text) (text : Text) (index : Nat) :
    Option (Turn Nat Text) := do
  match ← text.upFrom? index with
  | [] => some (.last [])
  | first :: _ =>
    if isEscaped text index then some (.more (first :: ·) (index + first.utf8Size))
    else if first = ':' then
      let before ← text.upTo? index
      let follows := Text.endsWithName functionNames before
      some (.more ((if follows then ['\\', ':'] else [':']) ++ ·) (index + first.utf8Size))
    else if first = '"' then some (.more ('\\' :: '"' :: ·) (index + first.utf8Size))
    else if first = '{' then
      match knownReference? variableNames (← text.upFrom? (index + 1)) with
      | some (name, _) =>
        some (.more ('\\' :: '{' :: name ++ '\\' :: '}' :: ·) (index + name.width + 2))
      | none => some (.more ('{' :: ·) (index + first.utf8Size))
    else some (.more (first :: ·) (index + first.utf8Size))

/-- Protects a text by byte offsets. -/
def protectByOffset? (functionNames variableNames : List Text) (text : Text) : Option Text :=
  takeTurns? (text.width - ·) (protectTurn? functionNames variableNames text) 0

/-- The variable that an opening brace refers to, with the width of its name, unless the brace is
escaped. The text stands behind the brace. -/
def boundWidth? (bindings : Dictionary Value) (escaped : Bool) (behind : Text) :
    Option (Option (Nat × Value)) :=
  match escaped, behind.breakAt? '}' with
  | false, some (before, _) => do
    let name ← behind.upTo? before.width
    some ((bindings.find? name).map fun value => (before.width, value))
  | _, _ => some none

/-- Goes on to substitute in a text at a byte offset, up to the next opening brace. Behind a
reference to a variable the next offset lies after as many bytes as the name and both braces
take. -/
def substituteTurn? (bindings : Dictionary Value) (text : Text) (index : Nat) :
    Option (Turn Nat Text) := do
  match (← text.upFrom? index).breakAt? '{' with
  | none => some (.last (← text.upFrom? index))
  | some (passed, _) =>
    let opening := index + passed.width
    let front ← text.between? index opening
    let behind ← text.upFrom? (opening + 1)
    match ← boundWidth? bindings (isEscaped text opening) behind with
    | some (closing, value) => some (.more (front ++ value.text ++ ·) (opening + closing + 2))
    | none => some (.more (front ++ '{' :: ·) (opening + 1))

/-- Substitutes in a text by byte offsets. -/
def substituteByOffset? (bindings : Dictionary Value) (text : Text) : Option Text :=
  takeTurns? (text.width - ·) (substituteTurn? bindings text) 0

/-- Goes on to strip what remains of a text, up to and with the next run of backslashes and the
delimiter behind it. -/
def stripTurn? (rest : Text) : Option (Turn Text Text) :=
  match rest.breakAt? '\\' with
  | none => some (.last rest)
  | some (passed, _) => do
    let front ← rest.upTo? passed.width
    let run ← rest.upFrom? passed.width
    let after : Text := run.dropWhile (· == '\\')
    let backslashes ← minus? run.width after.width
    match after.head?.filter isDelimiter with
    | some delimiter =>
      let others ← after.upFrom? delimiter.utf8Size
      some (.more (front ++ (if 1 < backslashes then ['\\'] else []) ++ delimiter :: ·) others)
    | none =>
      let lead ← run.upTo? backslashes
      some (.more (front ++ lead ++ ·) after)

/-- Strips a text by byte offsets. -/
def stripByOffset? (text : Text) : Option Text :=
  takeTurns? List.length stripTurn? text

variable {functionNames variableNames : List Text}

/-- A reference is wider than its name by both braces. -/
theorem width_append_reference (before name : Text) :
    Text.width (before ++ '{' :: (name ++ ['}'])) = Text.width before + Text.width name + 2 := by
  have braces : ('{').utf8Size = 1 ∧ ('}').utf8Size = 1 := ⟨rfl, rfl⟩
  simp only [Text.width_append, Text.width, braces]
  omega

/-- A turn of protection at a reference to a variable goes on behind the closing brace. -/
theorem protectTurn?_known {before rest name after : Text} (bare : before.getLast? ≠ some '\\')
    (known : knownReference? variableNames rest = some (name, after)) :
    protectTurn? functionNames variableNames (before ++ '{' :: rest) (Text.width before) =
      some (.more ('\\' :: '{' :: name ++ '\\' :: '}' :: ·)
        (Text.width (before ++ '{' :: (name ++ ['}'])))) := by
  have behind : Text.upFrom? (before ++ '{' :: rest) (Text.width before + 1) = some rest :=
    Text.upFrom?_append_cons before '{' rest
  rw [width_append_reference]
  simp [protectTurn?, isEscaped_append, bare, behind, known]

/-- A turn of protection at a character that opens no such reference writes what protection makes
of the character, and goes on behind it. -/
theorem protectTurn?_single {before rest : Text} {first : Char}
    (free : first = '{' → before.getLast? ≠ some '\\' →
      knownReference? variableNames rest = none) :
    ∃ written, protectTurn? functionNames variableNames (before ++ first :: rest)
        (Text.width before) = some (.more (written ++ ·) (Text.width (before ++ [first]))) ∧
      protectAfter functionNames variableNames before.reverse (first :: rest) =
        written ++ protectAfter functionNames variableNames (before ++ [first]).reverse rest := by
  rw [Text.width_append_singleton, List.reverse_append, List.reverse_singleton,
    List.singleton_append]
  by_cases escaped : before.getLast? = some '\\'
  · refine ⟨[first], by simp [protectTurn?, isEscaped_append, escaped], ?_⟩
    rw [protectAfter.eq_def]
    simp [escaped]
  · by_cases brace : first = '{'
    · subst brace
      have unknown := free rfl escaped
      have behind : Text.upFrom? (before ++ '{' :: rest) (Text.width before + 1) = some rest :=
        Text.upFrom?_append_cons before '{' rest
      exact ⟨['{'], by simp [protectTurn?, isEscaped_append, escaped, behind, unknown],
        protectAfter_brace (Or.inr unknown)⟩
    · rw [protectAfter.eq_def]
      by_cases colon : first = ':'
      · subst colon
        have mirrored : Text.followsName functionNames before.reverse =
            Text.endsWithName functionNames before := rfl
        refine ⟨if Text.endsWithName functionNames before then ['\\', ':'] else [':'],
          by simp [protectTurn?, isEscaped_append, escaped], ?_⟩
        by_cases follows : Text.endsWithName functionNames before = true
        · simp [mirrored, follows, escaped]
        · simp [mirrored, follows]
      · by_cases quote : first = '"'
        · subst quote
          exact ⟨['\\', '"'], by simp [protectTurn?, isEscaped_append, escaped], by simp [escaped]⟩
        · exact ⟨[first], by simp [protectTurn?, isEscaped_append, escaped, colon, quote, brace],
            by simp [colon, quote, brace]⟩

/-- A turn of protection writes what protection makes of the next characters, and leaves an offset
behind them. -/
theorem protectTurn?_append (before : Text) (first : Char) (rest : Text) :
    ∃ extend consumed others, first :: rest = consumed ++ others ∧ consumed ≠ [] ∧
      protectTurn? functionNames variableNames (before ++ first :: rest) (Text.width before) =
        some (.more extend (Text.width (before ++ consumed))) ∧
      protectAfter functionNames variableNames before.reverse (first :: rest) =
        extend (protectAfter functionNames variableNames (before ++ consumed).reverse others) := by
  by_cases reference : first = '{' ∧ before.getLast? ≠ some '\\' ∧
      knownReference? variableNames rest ≠ none
  · obtain ⟨rfl, bare, present⟩ := reference
    obtain ⟨⟨name, after⟩, known⟩ := Option.ne_none_iff_exists'.mp present
    obtain ⟨_, rfl⟩ := eq_append_of_knownReference? known
    refine ⟨('\\' :: '{' :: name ++ '\\' :: '}' :: ·), '{' :: (name ++ ['}']), after, by simp,
      by simp, protectTurn?_known bare known, ?_⟩
    have mirrored : before.reverse.head? ≠ some '\\' := by simpa using bare
    rw [protectAfter_known mirrored known]
    simp
  · have free : first = '{' → before.getLast? ≠ some '\\' →
        knownReference? variableNames rest = none := by
      intro brace bare
      exact not_not.mp fun present => reference ⟨brace, bare, present⟩
    obtain ⟨written, turned, extended⟩ := @protectTurn?_single functionNames _ _ _ _ free
    exact ⟨(written ++ ·), [first], rest, rfl, by simp, turned, extended⟩

/-- Protection by offsets finds all its slices, and protects. -/
theorem protectByOffset?_eq (functionNames variableNames : List Text) (text : Text) :
    protectByOffset? functionNames variableNames text =
      some (protect functionNames variableNames text) := by
  refine takeTurns?_along
    (fun before after => protectAfter functionNames variableNames before.reverse after)
    ?_ (List.nil_append text).symm (Nat.zero_le _)
  rintro before after rfl _
  cases after with
  | nil =>
    refine Or.inl ?_
    rw [protectAfter.eq_def, protectTurn?, Text.upFrom?_append]
    rfl
  | cons first rest => exact Or.inr (protectTurn?_append before first rest)

variable {bindings : Dictionary Value}

/-- Substitution passes over everything up to an opening brace. -/
theorem substituteAfter_append (bindings : Dictionary Value) {passed : Text}
    (braces : '{' ∉ passed) (before rest : Text) :
    substituteAfter bindings (before.getLast? == some '\\') (passed ++ rest) =
      passed ++ substituteAfter bindings ((before ++ passed).getLast? == some '\\') rest := by
  induction passed generalizing before with
  | nil => simp
  | cons first others inductionHypothesis =>
    obtain ⟨brace, remaining⟩ := not_or.mp (List.mem_cons.not.mp braces)
    have later := inductionHypothesis remaining (before ++ [first])
    rw [List.getLast?_append, List.getLast?_singleton, Option.some_or, List.append_assoc,
      List.singleton_append] at later
    rw [List.cons_append, substituteAfter_cons (Or.inl (Ne.symm brace)), List.cons_append]
    congr 1

/-- A reference that is bound lies as many bytes behind its brace as its name is wide. -/
theorem boundWidth?_bound {behind after : Text} {value : Value}
    (bound : boundReference? bindings behind = some (value, after)) :
    ∃ name, behind = name ++ '}' :: after ∧
      boundWidth? bindings false behind = some (some (name.width, value)) := by
  rw [boundReference?] at bound
  split at bound
  · rename_i name remaining broken
    obtain ⟨held, known, same⟩ := Option.map_eq_some_iff.mp bound
    obtain ⟨rfl, rfl⟩ := Prod.mk.inj same
    obtain ⟨rfl, _⟩ := Text.breakAt?_eq_some_iff.mp broken
    exact ⟨name, rfl, by simp [boundWidth?, broken, known]⟩
  · simp at bound

/-- No reference is bound that is escaped, and none that has no value. -/
theorem boundWidth?_unbound {escaped : Bool} {behind : Text}
    (unbound : escaped = true ∨ boundReference? bindings behind = none) :
    boundWidth? bindings escaped behind = some none := by
  rw [boundReference?] at unbound
  cases escaped with
  | true => cases Text.breakAt? '}' behind <;> simp [boundWidth?]
  | false =>
    have missing := unbound.resolve_left (by decide)
    cases broken : Text.breakAt? '}' behind with
    | none => simp [boundWidth?, broken]
    | some parts =>
      obtain ⟨name, after⟩ := parts
      obtain ⟨rfl, _⟩ := Text.breakAt?_eq_some_iff.mp broken
      simp only [broken, Option.map_eq_none_iff] at missing
      simp [boundWidth?, broken, missing]

/-- Substitution leaves a brace alone that is escaped or opens no bound reference. -/
theorem substituteAfter_brace {escaped : Bool} {rest : Text}
    (unbound : escaped = true ∨ boundReference? bindings rest = none) :
    substituteAfter bindings escaped ('{' :: rest) =
      '{' :: substituteAfter bindings false rest := by
  cases escaped with
  | true => exact substituteAfter_cons (Or.inr rfl) rest
  | false => exact substituteAfter_unbound (unbound.resolve_left (by decide))

/-- A turn of substitution writes what substitution makes of the text up to the next brace and of
the reference there, and leaves an offset behind them. -/
theorem substituteTurn?_append {passed : Text} (braces : '{' ∉ passed) (before behind : Text) :
    ∃ extend consumed others, passed ++ '{' :: behind = consumed ++ others ∧ consumed ≠ [] ∧
      substituteTurn? bindings (before ++ (passed ++ '{' :: behind)) (Text.width before) =
        some (.more extend (Text.width (before ++ consumed))) ∧
      substituteAfter bindings (before.getLast? == some '\\') (passed ++ '{' :: behind) =
        extend (substituteAfter bindings ((before ++ consumed).getLast? == some '\\') others) := by
  have found : Text.breakAt? '{' (passed ++ '{' :: behind) = some (passed, behind) :=
    Text.breakAt?_eq_some_iff.mpr ⟨rfl, braces⟩
  have front := Text.between?_append before passed ('{' :: behind)
  have opened : Text.upFrom? (before ++ passed ++ '{' :: behind)
      (Text.width (before ++ passed) + 1) = some behind := Text.upFrom?_append_cons _ '{' behind
  have escape := isEscaped_append (before ++ passed) ('{' :: behind)
  rw [Text.width_append] at opened escape
  rw [List.append_assoc before passed] at front opened escape
  rw [substituteAfter_append bindings braces]
  generalize ((before ++ passed).getLast? == some '\\') = escaped at escape
  by_cases unbound : escaped = true ∨ boundReference? bindings behind = none
  · refine ⟨(passed ++ '{' :: ·), passed ++ ['{'], behind, by simp, by simp, ?_, ?_⟩
    · have landed : Text.width (before ++ (passed ++ ['{'])) =
          Text.width before + Text.width passed + 1 := by
        simp only [Text.width_append, Text.width]
        rfl
      simp [substituteTurn?, found, front, opened, escape, boundWidth?_unbound unbound, landed]
    · have last : ((before ++ (passed ++ ['{'])).getLast? == some '\\') = false := by
        simp [List.getLast?_append]
      rw [last, substituteAfter_brace unbound]
  · obtain ⟨bare, known⟩ := not_or.mp unbound
    obtain rfl : escaped = false := by simpa using bare
    obtain ⟨⟨value, after⟩, bound⟩ := Option.ne_none_iff_exists'.mp known
    obtain ⟨name, rfl, measured⟩ := boundWidth?_bound bound
    refine ⟨(passed ++ value.text ++ ·), passed ++ '{' :: (name ++ ['}']), after, by simp, by simp,
      ?_, ?_⟩
    · have landed := width_append_reference (before ++ passed) name
      rw [List.append_assoc, Text.width_append before passed] at landed
      simp [substituteTurn?, found, front, opened, escape, measured, landed]
    · have last :
          ((before ++ (passed ++ '{' :: (name ++ ['}']))).getLast? == some '\\') = false := by
        simp [List.getLast?_append, List.getLast?_cons]
      rw [last, substituteAfter_bound bound]
      exact (List.append_assoc _ _ _).symm

/-- Substitution by offsets finds all its slices, and substitutes. -/
theorem substituteByOffset?_eq (bindings : Dictionary Value) (text : Text) :
    substituteByOffset? bindings text = some (substitute bindings text) := by
  refine takeTurns?_along
    (fun before after => substituteAfter bindings (before.getLast? == some '\\') after)
    ?_ (List.nil_append text).symm (Nat.zero_le _)
  rintro before after rfl _
  cases found : Text.breakAt? '{' after with
  | none =>
    have braces := Text.breakAt?_eq_none_iff.mp found
    have kept := substituteAfter_append bindings braces before []
    rw [List.append_nil, substituteAfter.eq_def bindings _ [], List.append_nil] at kept
    exact Or.inl (by simp [substituteTurn?, found, kept])
  | some parts =>
    obtain ⟨passed, behind⟩ := parts
    obtain ⟨rfl, braces⟩ := Text.breakAt?_eq_some_iff.mp found
    exact Or.inr (substituteTurn?_append braces before behind)

/-- A text begins with a run of backslashes, which may be empty. -/
theorem exists_run (text : Text) :
    ∃ count after, text = List.replicate count '\\' ++ after ∧ after.head? ≠ some '\\' := by
  induction text with
  | nil => exact ⟨0, [], rfl, by simp⟩
  | cons first rest inductionHypothesis =>
    by_cases backslash : first = '\\'
    · obtain ⟨count, after, whole, ended⟩ := inductionHypothesis
      exact ⟨count + 1, after, by rw [backslash, whole, List.replicate_succ, List.cons_append],
        ended⟩
    · exact ⟨0, first :: rest, rfl, by simpa using backslash⟩

/-- A run of backslashes is as wide as it is long. -/
theorem width_run (count : Nat) : Text.width (List.replicate count '\\') = count := by
  induction count with
  | zero => rfl
  | succ count inductionHypothesis =>
    have single : ('\\').utf8Size = 1 := rfl
    rw [List.replicate_succ, Text.width, inductionHypothesis, single, Nat.add_comm]

/-- Stripping keeps a run of backslashes that stands before no delimiter. -/
theorem strip_run_append (count : Nat) {after : Text} (ended : after.head? ≠ some '\\')
    (unmarked : after.head?.filter isDelimiter = none) :
    strip (List.replicate count '\\' ++ after) = List.replicate count '\\' ++ strip after := by
  cases after with
  | nil =>
    rw [List.append_nil, strip_eq_relevel, relevel_run, strip_eq_relevel, relevel, relevelAfter]
    simp
  | cons first rest =>
    have other : first ≠ '\\' := by simpa using ended
    have plain : isDelimiter first = false := by simpa using unmarked
    have alone : strip (first :: rest) = first :: strip rest := by
      have behind : relevel strippedLevel (List.replicate 0 '\\' ++ first :: rest) = _ :=
        relevel_run_cons other 0 rest
      simpa [plain, strip_eq_relevel] using behind
    rw [alone, strip_eq_relevel, relevel_run_cons other, plain, strip_eq_relevel]
    simp

/-- A turn of stripping writes what stripping makes of the text up to the next run of backslashes,
of this run and of a delimiter behind it, and leaves what stands behind them. -/
theorem stripTurn?_append {passed : Text} (clean : '\\' ∉ passed) (count : Nat) {after : Text}
    (ended : after.head? ≠ some '\\') :
    ∃ extend others, stripTurn? (passed ++ (List.replicate (count + 1) '\\' ++ after)) =
        some (.more extend others) ∧
      others.length ≤ after.length ∧
      strip (passed ++ (List.replicate (count + 1) '\\' ++ after)) = extend (strip others) := by
  have found : Text.breakAt? '\\' (passed ++ (List.replicate (count + 1) '\\' ++ after)) =
      some (passed, List.replicate count '\\' ++ after) :=
    Text.breakAt?_eq_some_iff.mpr ⟨rfl, clean⟩
  have dropped : (List.replicate (count + 1) '\\' ++ after).dropWhile (· == '\\') = after := by
    rw [List.dropWhile_append_of_pos (by simp)]
    cases after with
    | nil => rfl
    | cons first rest =>
      have other : first ≠ '\\' := by simpa using ended
      simp [other]
  have counted : minus? (Text.width (List.replicate (count + 1) '\\' ++ after)) (Text.width after) =
      some (count + 1) := by
    rw [Text.minus?_width_append, width_run]
  rw [strip_append_of_not_mem clean]
  cases marked : after.head?.filter isDelimiter with
  | none =>
    have lead := Text.upTo?_append (List.replicate (count + 1) '\\') after
    rw [width_run] at lead
    refine ⟨(passed ++ List.replicate (count + 1) '\\' ++ ·), after, ?_, Nat.le_refl _, ?_⟩
    · simp [stripTurn?, found, dropped, counted, marked, lead]
    · rw [strip_run_append _ ended marked]
      exact (List.append_assoc _ _ _).symm
  | some delimiter =>
    obtain ⟨first, delimits⟩ := Option.filter_eq_some_iff.mp marked
    obtain ⟨rest, rfl⟩ := List.head?_eq_some_iff.mp first
    rw [List.head?_cons] at marked
    have other : delimiter ≠ '\\' := by simpa using ended
    have behind : Text.upFrom? (delimiter :: rest) delimiter.utf8Size = some rest := by
      have later := Text.upFrom?_append_cons [] delimiter rest
      rwa [List.nil_append, Text.width, Nat.zero_add] at later
    refine ⟨(passed ++ List.replicate (strippedLevel (count + 1)) '\\' ++ delimiter :: ·), rest, ?_,
      Nat.le_succ _, ?_⟩
    · by_cases high : 0 < count
      · simp [stripTurn?, found, dropped, counted, marked, behind, strippedLevel, high]
      · simp [stripTurn?, found, dropped, counted, marked, behind, strippedLevel, high]
    · rw [strip_eq_relevel, relevel_run_cons other, delimits, strip_eq_relevel]
      simp

/-- Stripping by offsets finds all its slices, and strips. -/
theorem stripByOffset?_eq (text : Text) : stripByOffset? text = some (strip text) := by
  refine takeTurns?_eq_some (fun rest outcome => outcome = strip rest) ?_ rfl
  rintro rest _ rfl
  cases found : Text.breakAt? '\\' rest with
  | none =>
    have clean := Text.breakAt?_eq_none_iff.mp found
    have kept : strip rest = rest :=
      (strip_eq_self_iff rest).mpr (levelAtMost_zero_of_not_mem clean)
    exact Or.inl (by simp [stripTurn?, found, kept])
  | some parts =>
    obtain ⟨passed, behind⟩ := parts
    obtain ⟨rfl, clean⟩ := Text.breakAt?_eq_some_iff.mp found
    obtain ⟨count, after, rfl, ended⟩ := exists_run behind
    obtain ⟨extend, others, turned, shorter, stripped⟩ := stripTurn?_append clean count ended
    have longer : others.length <
        (passed ++ (List.replicate (count + 1) '\\' ++ after)).length := by
      simp only [List.length_append, List.length_replicate]
      omega
    exact Or.inr ⟨extend, others, strip others, turned, longer, rfl, stripped⟩

end Phrasebook.Template
