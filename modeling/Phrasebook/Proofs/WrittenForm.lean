import Phrasebook.Proofs.Canonical
import Phrasebook.Proofs.Resolution
import Phrasebook.Proofs.Slices

/-!
# The written form of calls

A call that was read is what its part of the text says: its written form stands there, up to one
colon that introduces nothing. Nothing that could belong to the call is left behind it. In the
other direction a written form is read as the call that it is the written form of, whatever stands
around it, if only its arguments are canonical and an empty one is not the last. A colon behind the
written form would be taken for a further separator.
-/

namespace Phrasebook.Template

/-- The characters of an escaped delimiter. -/
def Trailing.written : Trailing → Text
  | .colon => ['\\', ':']
  | .quote => ['\\', '"']

/-- Arguments that take as much as there is for them: each is canonical, at most one colon that
introduces nothing is taken along with them, and neither a further separator nor, behind a
separator, a further argument is left. -/
structure Exhaustive (arguments : List Argument) (extra left : Text) : Prop where
  each : ∀ argument ∈ arguments, argument.Canonical
  begins : arguments.head? ≠ some .empty
  optional : extra = [] ∨ extra = [':']
  introduced : extra = [':'] → arguments ≠ []
  closed : arguments.getLast? = some .empty → extra = [':']
  separated : arguments ≠ [] → left.head? ≠ some ':'
  exhausted : ∀ opener ∈ left.head?, IsOpener opener → arguments ≠ [] ∧ extra = []

/-- A call that a part of a text is read as: the part between its offsets is its written form, up to
a colon that introduces nothing. Behind it stands what the arguments leave, and there the escaped
delimiter is found. -/
structure Call.Occupies (call : Call) (text extra left : Text) : Prop where
  between : Text.between? text call.start call.stop = some (call.written ++ extra)
  behind : Text.upFrom? text call.stop = some left
  exhaustive : Exhaustive call.arguments extra left
  trailing : ∀ escape, call.trailing = some escape ↔ escape.written <+: left

/-- Arguments whose written form is enough to read them again. -/
structure CanonicalArguments (arguments : List Argument) : Prop where
  each : ∀ argument ∈ arguments, argument.Canonical
  begins : arguments.head? ≠ some .empty
  ends : arguments.getLast? ≠ some .empty

instance (arguments : List Argument) : Decidable (CanonicalArguments arguments) :=
  decidable_of_iff ((∀ argument ∈ arguments, argument.Canonical) ∧
      arguments.head? ≠ some .empty ∧ arguments.getLast? ≠ some .empty)
    ⟨fun parts => ⟨parts.1, parts.2.1, parts.2.2⟩,
      fun canonical => ⟨canonical.each, canonical.begins, canonical.ends⟩⟩

variable {arguments : List Argument} {before name text extra left rest : Text}

/-- An escaped delimiter is found exactly if its characters begin the text. -/
theorem Trailing.of?_eq_some_iff {escape : Trailing} :
    Trailing.of? text = some escape ↔ escape.written <+: text := by
  constructor
  · intro found
    unfold Trailing.of? at found
    split at found
    · obtain rfl := Option.some.inj found
      exact ⟨_, rfl⟩
    · obtain rfl := Option.some.inj found
      exact ⟨_, rfl⟩
    · simp at found
  · rintro ⟨behind, rfl⟩
    cases escape <;> rfl

/-- A text ends arguments by a colon that introduces nothing, or by nothing at all. An empty
argument is not the last one without such a colon, and no argument follows one. -/
theorem ending_iff :
    Ending arguments left extra ↔
      (extra = [] ∨ extra = [':']) ∧ (arguments.getLast? = some .empty → extra = [':']) ∧
        ∀ opener ∈ left.head?, IsOpener opener → extra = [] := by
  constructor
  · rintro (present | silent)
    · exact ⟨Or.inl rfl, fun last => absurd last present, fun _ _ _ => rfl⟩
    · have bare := readArgument_eq_none_iff.mp silent
      exact ⟨Or.inr rfl, fun _ => rfl, fun opener begins opens => absurd begins (bare opener opens)⟩
  · rintro ⟨rfl | rfl, closed, exhausted⟩
    · apply Ending.bare
      intro last
      exact absurd (closed last) (by simp)
    · apply Ending.colon
      refine readArgument_eq_none_iff.mpr fun opener opens begins => ?_
      exact absurd (exhausted opener begins opens) (by simp)

/-- Of a text that no argument begins, nothing can be taken. -/
theorem exhaustive_nil_iff :
    Exhaustive [] extra left ↔ extra = [] ∧ readArgument left = .ok none := by
  rw [readArgument_eq_none_iff]
  constructor
  · intro exhaustive
    refine ⟨exhaustive.optional.resolve_right fun colon => exhaustive.introduced colon rfl, ?_⟩
    intro opener opens begins
    exact (exhaustive.exhausted opener begins opens).1 rfl
  · rintro ⟨rfl, bare⟩
    constructor
    case exhausted =>
      intro opener begins opens
      exact absurd begins (bare opener opens)
    all_goals simp

/-- Arguments take as much as there is for them if they are canonical, they end as arguments do, and
no separator is left. -/
theorem exhaustive_iff (found : arguments ≠ []) :
    Exhaustive arguments extra left ↔
      (∀ argument ∈ arguments, argument.Canonical) ∧ arguments.head? ≠ some .empty ∧
        left.head? ≠ some ':' ∧ Ending arguments left extra := by
  constructor
  · intro exhaustive
    refine ⟨exhaustive.each, exhaustive.begins, exhaustive.separated found, ending_iff.mpr ?_⟩
    exact ⟨exhaustive.optional, exhaustive.closed,
      fun opener begins opens => (exhaustive.exhausted opener begins opens).2⟩
  · rintro ⟨each, begins, separated, ending⟩
    obtain ⟨optional, closed, exhausted⟩ := ending_iff.mp ending
    exact ⟨each, begins, optional, fun _ => found, closed, fun _ => separated,
      fun opener begins opens => ⟨found, exhausted opener begins opens⟩⟩

/-- The reader of arguments, at the start of a call, returns the arguments that its text is written
from and that take as much of it as there is for them. -/
theorem readArguments_true_eq_ok_iff :
    readArguments true text = .ok (arguments, left) ↔
      ∃ extra, Exhaustive arguments extra left ∧
        text = writtenArguments arguments ++ extra ++ left := by
  by_cases found : arguments = []
  · subst found
    simp only [readArguments_eq_nil_iff, exhaustive_nil_iff]
    constructor
    · rintro ⟨rfl, silent, _⟩
      exact ⟨[], ⟨rfl, silent⟩, rfl⟩
    · rintro ⟨_, ⟨rfl, silent⟩, rfl⟩
      exact ⟨rfl, silent, by simp⟩
  · simp only [readArguments_eq_ok_iff found, exhaustive_iff found, forall_const]
    constructor
    · rintro ⟨each, begins, separated, extra, ending, whole⟩
      exact ⟨extra, ⟨each, begins, separated, ending⟩, whole⟩
    · rintro ⟨extra, ⟨each, begins, separated, ending⟩, whole⟩
      exact ⟨each, begins, separated, extra, ending, whole⟩

/-- A call that was read stands in its text where it was looked for. Nothing of the text is lost in
it, and nothing that it could take is left behind it. -/
theorem occupies_of_read? {start : Nat} {call : Call}
    (read : Call.read? text start = some (.ok call)) :
    call.start = start ∧ ∃ extra left, call.Occupies text extra left := by
  obtain ⟨before, name, taken, left, rfl, rfl, complete, same⟩ := exists_parts_of_read? read
  obtain ⟨extra, exhaustive, whole⟩ := readArguments_true_eq_ok_iff.mp complete
  obtain rfl : taken = writtenArguments call.arguments ++ extra := List.append_cancel_right whole
  have parts : before ++ (name ++ ':' :: (writtenArguments call.arguments ++ extra ++ left)) =
      before ++ (name ++ ':' :: (writtenArguments call.arguments ++ extra)) ++ left := by
    simp
  have named : call.name = name := by rw [same]
  have starts : call.start = Text.width before := by rw [same]
  have stops : call.stop =
      Text.width (before ++ (name ++ ':' :: (writtenArguments call.arguments ++ extra))) := by
    rw [same]
    simp
  have freed : call.trailing = Trailing.of? left := by rw [same]
  refine ⟨starts, extra, left, ?_⟩
  rw [parts]
  exact {
    between := by
      rw [starts, stops, Text.width_append, Text.between?_append, Call.written, named]
      simp [writtenArguments]
    behind := by rw [stops, Text.upFrom?_append]
    exhaustive := exhaustive
    trailing := fun escape => by rw [freed, Trailing.of?_eq_some_iff] }

/-- A call in the middle of a text, with all kinds of arguments. Behind the last one, which is
empty, the colon that introduces nothing is taken along; the escaped one is left. -/
theorem occupies_of_read?_mixed :
    let text : Text :=
      ['é', 'f', ':', '"', 'a', '{', 'x', '}', '\\', '"', '"', ':', ':', '{', 'y', '}', ':', ':',
        '\\', ':', 'z']
    let call : Call :=
      ⟨['f'], [.quoted [.text ['a'], .reference ['x'], .text ['\\', '"']], .empty,
        .reference ['y'], .empty], 2, 19, some .colon⟩
    Call.read? text 2 = some (.ok call) ∧ call.Occupies text [':'] ['\\', ':', 'z'] := by
  intro text call
  have read : Call.read? text 2 = some (.ok call) := by decide +kernel
  have spanned : Text.between? text 2 19 = some (call.written ++ [':']) := by decide +kernel
  have remaining : Text.upFrom? text 19 = some ['\\', ':', 'z'] := by decide +kernel
  obtain ⟨_, extra, left, occupies⟩ := occupies_of_read? read
  obtain rfl : extra = [':'] :=
    List.append_cancel_left (Option.some.inj (occupies.between.symm.trans spanned))
  obtain rfl : left = ['\\', ':', 'z'] :=
    Option.some.inj (occupies.behind.symm.trans remaining)
  exact ⟨read, occupies⟩

/-- A colon behind the last argument is taken along although no argument records it. -/
example : Call.read? ['f', ':', '{', 'x', '}', ':'] 0 =
    some (.ok ⟨['f'], [.reference ['x']], 0, 6, none⟩) := by
  decide +kernel

/-- Where no separator follows, arguments take exactly their written form if they are canonical and
an empty one is not the last. -/
theorem exhaustive_bare_iff (found : arguments ≠ []) (ended : rest.head? ≠ some ':') :
    Exhaustive arguments [] rest ↔ CanonicalArguments arguments := by
  rw [exhaustive_iff found]
  constructor
  · rintro ⟨each, begins, _, ⟨present⟩⟩
    exact ⟨each, begins, present⟩
  · intro canonical
    exact ⟨canonical.each, canonical.begins, ended, .bare canonical.ends⟩

/-- The written form of a call is read as this call, up to its end and not further, exactly if its
arguments are canonical and an empty one is not the last. The text before it does not matter, nor
does the text behind it as long as no separator begins that.

Proof: the reader takes the name, and the arguments that it returns take exactly their written form.
A colon behind them would have to come from the text behind the call. -/
theorem read?_written_iff (present : name ≠ []) (colons : ':' ∉ name)
    (unescaped : name.getLast? ≠ some '\\') (found : arguments ≠ [])
    (ended : rest.head? ≠ some ':') :
    (∃ trailing, (∀ escape, trailing = some escape ↔ escape.written <+: rest) ∧
        Call.read? (before ++ (name ++ ':' :: writtenArguments arguments) ++ rest)
            (Text.width before) =
          some (.ok ⟨name, arguments, Text.width before,
            Text.width (before ++ (name ++ ':' :: writtenArguments arguments)), trailing⟩)) ↔
      CanonicalArguments arguments := by
  have named : readName? (before.getLast? == some '\\')
      (name ++ ':' :: (writtenArguments arguments ++ rest)) =
        some (name, writtenArguments arguments ++ rest) :=
    readName?_of_not_mem colons unescaped fun nothing => absurd nothing present
  have parts : before ++ (name ++ ':' :: writtenArguments arguments) ++ rest =
      before ++ (name ++ ':' :: (writtenArguments arguments ++ rest)) := by
    simp
  rw [← exhaustive_bare_iff found ended, parts]
  simp only [read?_append_eq_ok_iff named]
  constructor
  · rintro ⟨trailing, _, taken, left, split, complete, same⟩
    have stops : Text.width (writtenArguments arguments) = Text.width taken := by
      have offset := congrArg Call.stop same
      simp only [Text.width_append, Text.width] at offset
      omega
    obtain ⟨rfl, rfl⟩ := Text.parts_eq_of_width split stops
    obtain ⟨extra, exhaustive, whole⟩ := readArguments_true_eq_ok_iff.mp complete
    have nothing : extra = [] := by simpa using whole
    exact nothing ▸ exhaustive
  · intro exhaustive
    refine ⟨Trailing.of? rest, fun _ => Trailing.of?_eq_some_iff, writtenArguments arguments, rest,
      rfl, ?_, by simp⟩
    exact readArguments_true_eq_ok_iff.mpr ⟨[], exhaustive, by simp⟩

/-- A name with a backslash inside, behind a backslash, and an escaped quote behind the call. -/
theorem read?_written_iff_mixed :
    let before : Text := ['é', '\\']
    let name : Text := ['f', '\\', 'g']
    let arguments : List Argument :=
      [.quoted [.text ['a'], .text ['\\', '"'], .reference ['x'], .text ['}', ':']], .empty,
        .reference ['y', '"']]
    let rest : Text := ['\\', '"', 'z']
    CanonicalArguments arguments ∧
      Call.read? (before ++ (name ++ ':' :: writtenArguments arguments) ++ rest) 3 =
        some (.ok ⟨name, arguments, 3, 23, some .quote⟩) := by
  intro before name arguments rest
  have canonical : CanonicalArguments arguments := by decide
  obtain ⟨trailing, freed, read⟩ := (@read?_written_iff arguments before name rest (by decide)
    (by decide) (by decide) (by decide) (by decide)).mpr canonical
  obtain rfl : trailing = some .quote := (freed .quote).mpr (by decide)
  exact ⟨canonical, read⟩

end Phrasebook.Template
