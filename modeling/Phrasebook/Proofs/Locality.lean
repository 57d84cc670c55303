import Phrasebook.Proofs.Canonical
import Phrasebook.Proofs.Resolution
import Phrasebook.Proofs.Sites

/-!
# A call is read from its own text

What the reader of arguments takes off a text does not depend on what it leaves, but for one
thing: whether it would have gone on. A colon directly behind a call introduces a further
argument; and where the call ends in a colon that was taken along, so does an opener.

So a call is read alike in two texts that agree up to its end, as long as it goes on in neither
of them, and the same escaped delimiter, or none, follows it.
-/

namespace Phrasebook.Template

/-- Behind a call that ends where `front` ends, the reader of its arguments goes on: a colon
introduces a further argument, and so does an opener after a colon that was taken along. -/
def Continues (front behind : Text) : Prop :=
  behind.head? = some ':' ∨
    front.getLast? = some ':' ∧ ∃ opener, IsOpener opener ∧ behind.head? = some opener

/-- Whether a call goes on depends on what stands before its last colon and behind its end. -/
theorem continues_append_cons_iff (front : Text) {taken behind : Text} :
    Continues (front ++ ':' :: taken) behind ↔ Continues (':' :: taken) behind := by
  simp [Continues, List.getLast?_append]

/-- Only the first character behind a call decides whether the call goes on. -/
theorem continues_congr {front behind behind' : Text} (same : behind.head? = behind'.head?) :
    Continues front behind ↔ Continues front behind' := by
  rw [Continues, Continues, same]

/-- Whether an escaped delimiter begins a text is told by two characters, the first of which is a
backslash. -/
theorem Trailing.of?_congr {first : Char} {rest rest' : Text}
    (alike : first = '\\' → rest.head? = rest'.head?) :
    Trailing.of? (first :: rest) = Trailing.of? (first :: rest') := by
  by_cases backslash : first = '\\'
  · subst backslash
    have same := alike rfl
    cases rest with
    | nil =>
      obtain rfl : rest' = [] := List.head?_eq_none_iff.mp same.symm
      rfl
    | cons second others =>
      obtain ⟨others', rfl⟩ := List.head?_eq_some_iff.mp same.symm
      by_cases colon : second = ':'
      · subst colon
        rfl
      · by_cases quote : second = '"'
        · subst quote
          rfl
        · simp [Trailing.of?, colon, quote]
  · simp [Trailing.of?, backslash]

/-- Behind a separator that was taken along, a call goes on unless the text is left unread. -/
theorem not_continues_colon_iff {text : Text} :
    ¬Continues [':'] text ↔ text.head? ≠ some ':' ∧ readArgument text = .ok none := by
  rw [readArgument_eq_none_iff]
  simp [Continues]

/-- An argument that is not empty ends in a quote or a brace. -/
theorem Argument.exists_written {argument : Argument} (present : argument ≠ .empty) :
    ∃ front mark, argument.written = front ++ [mark] ∧ mark ≠ ':' := by
  cases argument with
  | reference name => exact ⟨'{' :: name, '}', rfl, by decide⟩
  | quoted pieces => exact ⟨'"' :: pieces.flatMap Piece.written, '"', rfl, by decide⟩
  | empty => exact absurd rfl present

/-- Arguments behind a colon do not end in a colon, unless the last one is empty. -/
theorem getLast?_writtenArguments_ne {arguments : List Argument} (found : arguments ≠ [])
    (present : arguments.getLast? ≠ some .empty) :
    (':' :: writtenArguments arguments).getLast? ≠ some ':' := by
  induction arguments with
  | nil => exact absurd rfl found
  | cons argument rest inductionHypothesis =>
    cases rest with
    | nil =>
      obtain ⟨front, mark, written, different⟩ := argument.exists_written (by simpa using present)
      rw [writtenArguments_singleton, written, ← List.cons_append, List.getLast?_concat]
      simpa using different
    | cons second others =>
      have later := inductionHypothesis (by simp) (by simpa using present)
      rw [writtenArguments_cons_cons, ← List.cons_append,
        List.getLast?_append_of_ne_nil _ (List.cons_ne_nil _ _)]
      exact later

/-- In front of another text, arguments end as they do here and leave no separator exactly if their
call does not go on there. -/
theorem not_continues_writtenArguments_iff {arguments : List Argument} {left extra : Text}
    (found : arguments ≠ []) (ending : Ending arguments left extra) (behind : Text) :
    ¬Continues (':' :: (writtenArguments arguments ++ extra)) behind ↔
      behind.head? ≠ some ':' ∧ Ending arguments behind extra := by
  cases ending with
  | bare present =>
    have ended := getLast?_writtenArguments_ne found present
    rw [List.append_nil, and_iff_left (Ending.bare present)]
    simp [Continues, ended]
  | colon silent =>
    rw [← List.cons_append, continues_append_cons_iff, not_continues_colon_iff]
    constructor
    · rintro ⟨separated, silent'⟩
      exact ⟨separated, .colon silent'⟩
    · rintro ⟨separated, ending'⟩
      cases ending' with
      | colon silent' => exact ⟨separated, silent'⟩

/-- The arguments of a call are read again, up to the same place, in front of every other text
into which the call does not go on.

The colon before the arguments counts as the last one if no argument follows it. -/
theorem readArguments_local {first : Bool} {text left : Text} {arguments : List Argument}
    (read : readArguments first text = .ok (arguments, left))
    (present : first = true → arguments ≠ []) :
    ∃ taken, text = taken ++ left ∧ ¬Continues (':' :: taken) left ∧
      ∀ behind, ¬Continues (':' :: taken) behind →
        readArguments first (taken ++ behind) = .ok (arguments, behind) := by
  by_cases found : arguments = []
  · subst found
    obtain ⟨rfl, silent, separated⟩ := readArguments_eq_nil_iff.mp read
    have later : first = false := by simpa using present
    -- Nothing is taken here, so the separator in front stays the last character taken.
    refine ⟨[], rfl, not_continues_colon_iff.mpr ⟨separated later, silent⟩, ?_⟩
    intro behind free
    obtain ⟨separated', silent'⟩ := not_continues_colon_iff.mp free
    exact readArguments_eq_nil_iff.mpr ⟨rfl, silent', fun _ => separated'⟩
  · obtain ⟨each, begins, separated, extra, ending, rfl⟩ := (readArguments_eq_ok_iff found).mp read
    have free := not_continues_writtenArguments_iff found ending
    refine ⟨writtenArguments arguments ++ extra, rfl, (free left).mpr ⟨separated, ending⟩, ?_⟩
    intro behind free'
    obtain ⟨separated', ending'⟩ := (free behind).mp free'
    exact (readArguments_eq_ok_iff found).mpr ⟨each, begins, separated', extra, ending', rfl⟩

/-- A call is read from where it begins. -/
theorem start_of_read? {text : Text} {start : Nat} {call : Call}
    (read : Call.read? text start = some (.ok call)) : call.start = start := by
  obtain ⟨_, _, _, _, _, rfl, _, same⟩ := exists_parts_of_read? read
  rw [same]

/-- What is read of a call to a plain name: its arguments, and the place behind them. -/
theorem read?_eq_ok_iff {before name written : Text} {call : Call} (plain : PlainName name) :
    Call.read? (before ++ name ++ ':' :: written) (Text.width before) = some (.ok call) ↔
      ∃ taken left, written = taken ++ left ∧
        readArguments true written = .ok (call.arguments, left) ∧
        call = ⟨name, call.arguments, Text.width before,
          Text.width (before ++ name ++ ':' :: taken), Trailing.of? left⟩ := by
  rw [List.append_assoc before]
  exact read?_append_eq_ok_iff (plain.readName? _ written)

/-- A call that was read up to a place was read from its name, its colon and what is left of the
text before that place. -/
theorem parts_of_read? {before name written front left : Text} {call : Call}
    (plain : PlainName name)
    (read : Call.read? (before ++ name ++ ':' :: written) (Text.width before) = some (.ok call))
    (whole : before ++ name ++ ':' :: written = front ++ left)
    (stop : call.stop = Text.width front) :
    ∃ taken, front = before ++ name ++ ':' :: taken ∧ written = taken ++ left ∧
      readArguments true (taken ++ left) = .ok (call.arguments, left) ∧
      call.name = name ∧ call.trailing = Trailing.of? left := by
  obtain ⟨taken, left', rfl, complete, parts⟩ := (read?_eq_ok_iff plain).mp read
  have stop' : call.stop = Text.width (before ++ name ++ ':' :: taken) := by rw [parts]
  obtain ⟨rfl, rfl⟩ : before ++ name ++ ':' :: taken = front ∧ left' = left :=
    Text.parts_eq_of_width (by simpa using whole) (stop'.symm.trans stop)
  exact ⟨taken, rfl, rfl, complete, by rw [parts], by rw [parts]⟩

/-- A call at a head ends at a place of the text. -/
theorem exists_front_of_read? {name : Text} {opener : Char} {text : Text} {call : Call}
    (plain : PlainName name) (headed : HeadAt text call.start name opener)
    (read : Call.read? text call.start = some (.ok call)) :
    ∃ front left, text = front ++ left ∧ call.stop = Text.width front := by
  obtain ⟨before, after, rfl, begins⟩ := headed
  rw [begins] at read
  obtain ⟨taken, left, split, _, parts⟩ := (read?_eq_ok_iff plain).mp read
  exact ⟨before ++ name ++ ':' :: taken, left, by simp [split], by rw [parts]⟩

/-- A call is read alike in two texts that agree up to its end exactly if, in the second one, it
does not go on and the same escaped delimiter, or none, follows it. -/
theorem read?_iff_of_agree {name : Text} {opener : Char} {text text' front left behind : Text}
    {call : Call} (plain : PlainName name) (opens : IsOpener opener)
    (headed : HeadAt text call.start name opener)
    (read : Call.read? text call.start = some (.ok call))
    (whole : text = front ++ left) (stop : call.stop = Text.width front)
    (whole' : text' = front ++ behind) :
    Call.read? text' call.start = some (.ok call) ↔
      ¬Continues front behind ∧ Trailing.of? behind = call.trailing := by
  obtain ⟨before, after, rfl, begins⟩ := headed
  rw [begins] at read ⊢
  obtain ⟨taken, rfl, split, complete, named, _⟩ := parts_of_read? plain read whole stop
  have present : true = true → call.arguments ≠ [] :=
    fun _ => ne_nil_of_readArguments opens (split ▸ complete)
  have shown : text' = before ++ name ++ ':' :: (taken ++ behind) := by simp [whole']
  rw [shown, continues_append_cons_iff]
  constructor
  · intro read'
    obtain ⟨taken', same, _, complete', _, trails⟩ :=
      parts_of_read? plain read' (shown.symm.trans whole') stop
    obtain rfl : taken = taken' := by simpa using same
    obtain ⟨others, again, ended, _⟩ := readArguments_local complete' present
    obtain rfl : taken = others := List.append_cancel_right again
    exact ⟨ended, trails.symm⟩
  · rintro ⟨free, trails⟩
    obtain ⟨others, again, _, elsewhere⟩ := readArguments_local complete present
    obtain rfl : taken = others := List.append_cancel_right again
    refine (read?_eq_ok_iff plain).mpr ⟨taken, behind, rfl, elsewhere behind free, ?_⟩
    rw [trails, ← stop, ← begins, ← named]

end Phrasebook.Template
