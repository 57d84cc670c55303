import Phrasebook.Proofs.Faults
import Phrasebook.Proofs.Sites

/-!
# The search and the reader agree

The search for call sites knows the names it looks for and tests at each place whether one of them
stands there before a colon and an opener. The reader of calls knows no names: it goes on to the
first colon that is not escaped, takes what it has passed for the name, and reads arguments.

As no name holds a colon, both come to the same colon, and they agree on what is a call: a site is a
place where the reader takes a listed name and finds an argument, be it complete or left open.
-/

namespace Phrasebook.Template

/-- The reader takes a call of a listed name at a byte offset: it returns one with arguments, or an
argument of it is left open. -/
def Recognised (names : List Text) (text : Text) (site : Nat) : Prop :=
  (∃ call, Call.read? text site = some (.ok call) ∧ call.name ∈ names ∧ call.arguments ≠ []) ∨
    ∃ function ∈ names, ∃ offset,
      Call.read? text site = some (.error (.unterminatedString function offset)) ∨
        Call.read? text site = some (.error (.unterminatedVariable function offset))

variable {names : List Text} {before after name written : Text}

/-- What is recognised is recognised at a boundary between two characters. -/
theorem Recognised.exists_boundary {text : Text} {site : Nat}
    (recognised : Recognised names text site) :
    ∃ before after, text = before ++ after ∧ site = Text.width before := by
  have read : ∃ outcome, Call.read? text site = some outcome := by
    rcases recognised with ⟨_, read, _⟩ | ⟨_, _, _, read | read⟩
    · exact ⟨_, read⟩
    · exact ⟨_, read⟩
    · exact ⟨_, read⟩
  obtain ⟨outcome, here⟩ := read
  obtain ⟨⟨before, after⟩, cut, _⟩ := Option.map_eq_some_iff.mp here
  obtain ⟨whole, measured⟩ := Text.eq_append_of_cut? cut
  exact ⟨before, after, whole, measured⟩

/-- The reader of arguments comes back with none exactly if no opener begins its text. -/
theorem readArguments_ne_nil_iff :
    readArguments true written ≠ .ok ([], written) ↔
      ∃ opener rest, IsOpener opener ∧ written = opener :: rest := by
  rw [ne_eq, readArguments_eq_nil_iff, readArgument_eq_none_iff]
  constructor
  · intro found
    simp only [true_and, reduceCtorEq, false_implies, and_true, not_forall, not_not] at found
    obtain ⟨opener, opens, begins⟩ := found
    obtain ⟨rest, whole⟩ := List.head?_eq_some_iff.mp begins
    exact ⟨opener, rest, opens, whole⟩
  · rintro ⟨opener, rest, opens, rfl⟩ ⟨_, bare, _⟩
    exact bare opener opens rfl

/-- A name that holds no colon is ended by the next one unless it ends in a backslash. -/
theorem separates_iff_of_not_mem (present : name ≠ []) (colons : ':' ∉ name) :
    Separates before name ↔ name.getLast? ≠ some '\\' := by
  have ending : (before ++ name).getLast? = name.getLast? :=
    List.getLast?_append_of_ne_nil before present
  constructor
  · intro separates
    exact ending ▸ separates.bare
  · intro bare
    exact ⟨ending ▸ bare, fun front back whole => absurd (by simp [whole]) colons⟩

/-- A listed name that a colon ends is recognised in front of an opener: its arguments are read, or
one of them is left open. -/
theorem recognised_of_opener (listed : name ∈ names) (separates : Separates before name)
    (begun : ∃ opener rest, IsOpener opener ∧ written = opener :: rest) :
    Recognised names (before ++ (name ++ ':' :: written)) (Text.width before) := by
  have named : readName? (before.getLast? == some '\\') (name ++ ':' :: written) =
      some (name, written) := readName?_append_iff.mpr separates
  cases complete : readArguments true written with
  | ok reading =>
    obtain ⟨arguments, left⟩ := reading
    obtain ⟨taken, whole⟩ := suffix_of_readArguments complete
    obtain ⟨opener, rest, opens, rfl⟩ := begun
    refine Or.inl ⟨⟨name, arguments, Text.width before,
      Text.width (before ++ name ++ ':' :: taken), Trailing.of? left⟩, ?_, listed, ?_⟩
    · exact (read?_append_eq_ok_iff named).mpr ⟨taken, left, whole, complete, rfl⟩
    · exact ne_nil_of_readArguments opens complete
  | error failure =>
    obtain ⟨unclosed, opening⟩ := failure
    obtain ⟨_, taken, rfl⟩ := failing_of_readArguments complete
    have read := read?_eq_error named complete
    cases unclosed with
    | string => exact Or.inr ⟨name, listed, _, Or.inl read⟩
    | reference => exact Or.inr ⟨name, listed, _, Or.inr read⟩

/-- A fault of an unclosed argument tells the name of its call. -/
theorem Unclosed.function_eq {unclosed other : Unclosed} {function name : Text} {offset place : Nat}
    (same : unclosed.fault function offset = other.fault name place) : function = name := by
  cases unclosed <;> cases other <;> simp_all [Unclosed.fault]

/-- Where a call is recognised, a listed name stands, the colon that ends it, and an opener. -/
theorem Recognised.exists_opener
    (recognised : Recognised names (before ++ after) (Text.width before)) :
    ∃ name ∈ names, Separates before name ∧
      ∃ opener rest, IsOpener opener ∧ after = name ++ ':' :: opener :: rest := by
  rcases recognised with ⟨call, read, listed, found⟩ | ⟨function, listed, offset, fault⟩
  · cases named : readName? (before.getLast? == some '\\') after with
    | none => simp [read?_append, Call.readHere, named] at read
    | some parts =>
      obtain ⟨name, written⟩ := parts
      obtain ⟨whole, separates⟩ := readName?_eq_some_iff.mp named
      obtain ⟨taken, left, _, complete, same⟩ := (read?_append_eq_ok_iff named).mp read
      have begun : readArguments true written ≠ .ok ([], written) := by
        rw [complete]
        intro none
        exact found (Prod.mk.inj (Except.ok.inj none)).1
      obtain ⟨opener, rest, opens, rfl⟩ := readArguments_ne_nil_iff.mp begun
      rw [same] at listed
      exact ⟨name, listed, separates, opener, rest, opens, whole⟩
  · obtain ⟨unclosed, read⟩ : ∃ unclosed : Unclosed,
        Call.read? (before ++ after) (Text.width before) =
          some (.error (unclosed.fault function offset)) := by
      rcases fault with read | read
      · exact ⟨.string, read⟩
      · exact ⟨.reference, read⟩
    generalize same : unclosed.fault function offset = fault at read
    cases malformed_of_read? read with
    | separator => cases unclosed <;> simp [Unclosed.fault] at same
    | argument name arguments opening other whole separates complete begins leavesOpen =>
      obtain rfl := Unclosed.function_eq same
      have failed : readArguments true (passedText arguments ++ opening) =
          .error (other, opening) :=
        readArguments_eq_error_iff.mpr ⟨arguments, complete, fun _ => begins, rfl, leavesOpen⟩
      obtain ⟨opener, rest, opens, split⟩ :=
        readArguments_ne_nil_iff.mp (by rw [failed]; simp)
      exact ⟨function, listed, separates, opener, rest, opens, split ▸ whole⟩

/-- The sites of a text are the places where the reader recognises a call of a listed name, and they
are listed from the last one to the first.

Proof: a name without colons is read up to the colon behind it, which ends it unless the name ends
in a backslash; and the reader finds an argument exactly where an opener stands. -/
theorem callSites_recognised (names : List Text) (text : Text)
    (named : ∀ name ∈ names, name ≠ [] ∧ ':' ∉ name) :
    (∀ site, site ∈ callSites names text ↔ Recognised names text site) ∧
      (callSites names text).Pairwise (· > ·) := by
  refine ⟨fun site => ⟨fun listed => ?_, fun recognised => ?_⟩, callSites_descending names text⟩
  · obtain ⟨before, after, rfl, rfl, name, member, begins⟩ := mem_callSites_iff.mp listed
    obtain ⟨present, bare, opener, rest, opens, rfl⟩ := startsCall_eq_true_iff.mp begins
    have separates : Separates before name :=
      (separates_iff_of_not_mem present (named name member).2).mpr bare
    exact recognised_of_opener member separates ⟨opener, rest, opens, rfl⟩
  · obtain ⟨before, after, rfl, rfl⟩ := recognised.exists_boundary
    obtain ⟨name, member, separates, opener, rest, opens, rfl⟩ := recognised.exists_opener
    obtain ⟨present, colons⟩ := named name member
    have bare := (separates_iff_of_not_mem present colons).mp separates
    refine mem_callSites_iff.mpr ⟨before, _, rfl, rfl, name, member, ?_⟩
    exact startsCall_eq_true_iff.mpr ⟨present, bare, opener, rest, opens, rfl⟩

/-- A call inside a string whose name ends another listed name, one behind an escaped colon, a name
that ends in a backslash, and a string that is left open. -/
theorem callSites_recognised_escaped :
    let names : List Text := [['f'], ['é', 'f'], ['g', '\\', 'h'], ['h', '\\']]
    let text : Text := ['é', 'f', ':', '"', 'g', '\\', ':', 'g', '\\', 'h', ':', '{', 'x', '}',
      '"', 'h', '\\', ':', '{', 'f', ':', '"', 'y']
    (∀ name ∈ names, name ≠ [] ∧ ':' ∉ name) ∧ callSites names text = [20, 8, 2, 0] ∧
      Recognised names text 20 ∧ ¬Recognised names text 16 := by
  intro names text
  have named : ∀ name ∈ names, name ≠ [] ∧ ':' ∉ name := by decide
  have sites : callSites names text = [20, 8, 2, 0] := by decide +kernel
  obtain ⟨recognised, _⟩ := callSites_recognised names text named
  refine ⟨named, sites, (recognised 20).mp ?_, fun found => ?_⟩
  · simp [sites]
  · have listed := (recognised 16).mpr found
    simp [sites] at listed

end Phrasebook.Template
