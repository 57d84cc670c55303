import Phrasebook.Proofs.Sites
import Phrasebook.Template.Scope

/-!
# Protected texts are inert

Protection decides from the text that it is given where a backslash is missing. The readers
of templates look at the text that it returns, in which those backslashes already stand.
Both see the same: a character is exposed if no backslash precedes it and it is a colon
after the name of a function, a quote, or the brace of a reference to a known variable, and
in a protected text no character is exposed.

From this one invariant follow all four promises about the result of a function. Its quotes
are escaped, no call begins in it, no variable is put into it, and protecting it once more
changes nothing. The names have to be plain: a reference to a variable is protected as a
whole, and one called `"` would keep its quote.
-/

namespace Phrasebook.Template

variable {functionNames variableNames : List Text}

/-- Whether a character is read as more than itself, given what stands before it, from the end
to the start, and after it. -/
def Exposed (functionNames variableNames : List Text) (seen : Text) (first : Char) (rest : Text) :
    Prop :=
  seen.head? ≠ some '\\' ∧
    (first = ':' ∧ Text.followsName functionNames seen = true ∨ first = '"' ∨
      first = '{' ∧ ∃ name after, knownReference? variableNames rest = some (name, after))

/-- Behind the text that `seen` lists from its end to its start, no character is exposed. -/
def InertAfter (functionNames variableNames : List Text) : Text → Text → Prop
  | _, [] => True
  | seen, first :: rest =>
    ¬Exposed functionNames variableNames seen first rest ∧
      InertAfter functionNames variableNames (first :: seen) rest

/-- A backslash itself is never exposed. -/
theorem backslash_not_exposed (seen rest : Text) :
    ¬Exposed functionNames variableNames seen '\\' rest := by
  simp [Exposed]

/-- A character after a backslash is never exposed. -/
theorem escaped_not_exposed (seen : Text) (first : Char) (rest : Text) :
    ¬Exposed functionNames variableNames ('\\' :: seen) first rest := by
  simp [Exposed]

/-- An ordinary character is never exposed. -/
theorem ordinary_not_exposed {first : Char} (ordinary : isOrdinary first = true)
    (seen rest : Text) : ¬Exposed functionNames variableNames seen first rest := by
  obtain ⟨colon, quote, brace, _, _⟩ := isOrdinary_iff.mp ordinary
  simp [Exposed, colon, quote, brace]

/-- What stands behind a first part of an inert text is inert there. -/
theorem InertAfter.behind {seen before after : Text}
    (inert : InertAfter functionNames variableNames seen (before ++ after)) :
    InertAfter functionNames variableNames (before.reverse ++ seen) after := by
  induction before generalizing seen with
  | nil => exact inert
  | cons first rest inductionHypothesis => simpa using inductionHypothesis inert.2

/-- Every character of an inert text is unexposed where it stands. -/
theorem InertAfter.not_exposed {seen before after : Text} {character : Char}
    (inert : InertAfter functionNames variableNames seen (before ++ character :: after)) :
    ¬Exposed functionNames variableNames (before.reverse ++ seen) character after :=
  inert.behind.1

/-- Ordinary characters in front of a text leave open whether it is inert. -/
theorem inertAfter_ordinary_append {name : Text} (ordinary : Ordinary name) {seen after : Text} :
    InertAfter functionNames variableNames seen (name ++ after) ↔
      InertAfter functionNames variableNames (name.reverse ++ seen) after := by
  induction name generalizing seen with
  | nil => simp
  | cons first rest inductionHypothesis =>
    obtain ⟨plain, others⟩ := ordinary_cons.mp ordinary
    simp [InertAfter, ordinary_not_exposed plain, inductionHypothesis others]

/-- A known reference is a listed name before a closing brace. -/
theorem eq_append_of_knownReference? {text name after : Text}
    (known : knownReference? variableNames text = some (name, after)) :
    name ∈ variableNames ∧ text = name ++ '}' :: after := by
  obtain ⟨candidate, member, found⟩ := List.exists_of_findSome?_eq_some known
  split at found
  · simp at found
  · split at found
    · rename_i remaining stripped
      simp only [Option.some.injEq, Prod.mk.injEq] at found
      obtain ⟨rfl, rfl⟩ := found
      exact ⟨member, (List.isPrefixOf?_eq_some_iff_append_eq.mp stripped).symm⟩
    · simp at found

/-- A listed name before a closing brace is a known reference. -/
theorem exists_knownReference? {name : Text} (member : name ∈ variableNames)
    (nonempty : name ≠ []) (after : Text) :
    ∃ found remaining, knownReference? variableNames (name ++ '}' :: after) =
      some (found, remaining) := by
  have stripped : name.isPrefixOf? (name ++ '}' :: after) = some ('}' :: after) :=
    List.isPrefixOf?_eq_some_iff_append_eq.mpr rfl
  cases search : knownReference? variableNames (name ++ '}' :: after) with
  | some found => exact ⟨found.1, found.2, rfl⟩
  | none =>
    have missed := List.findSome?_eq_none_iff.mp search name member
    simp [nonempty, stripped] at missed

/-- Protection begins what it returns with a backslash or with the character it was given. -/
theorem eq_cons_of_protectAfter {seen text out : Text} {first : Char}
    (returned : protectAfter functionNames variableNames seen text = first :: out)
    (unescaped : first ≠ '\\') :
    ∃ rest, text = first :: rest ∧
      out = protectAfter functionNames variableNames (first :: seen) rest := by
  cases text with
  | nil => simp [protectAfter] at returned
  | cons head rest =>
    rw [protectAfter] at returned
    split at returned
    · exact absurd (List.cons.inj returned).1.symm unescaped
    · split at returned
      · exact absurd (List.cons.inj returned).1.symm unescaped
      · split at returned
        · rename_i open_
          simp only [Bool.and_eq_true, beq_iff_eq] at open_
          obtain ⟨rfl, _⟩ := open_
          split at returned
          · simp only [List.cons_append, List.cons.injEq] at returned
            exact absurd returned.1.symm unescaped
          · obtain ⟨rfl, rfl⟩ := List.cons.inj returned
            exact ⟨rest, rfl, rfl⟩
        · obtain ⟨rfl, rfl⟩ := List.cons.inj returned
          exact ⟨rest, rfl, rfl⟩

/-- An ordinary text before a closing brace comes out of protection only as it went in. -/
theorem eq_append_of_protectAfter {seen text name after : Text} (ordinary : Ordinary name)
    (returned : protectAfter functionNames variableNames seen text = name ++ '}' :: after) :
    ∃ remaining, text = name ++ '}' :: remaining := by
  induction name generalizing seen text with
  | nil =>
    obtain ⟨rest, rfl, _⟩ := eq_cons_of_protectAfter returned (by decide)
    exact ⟨rest, rfl⟩
  | cons first others inductionHypothesis =>
    obtain ⟨plain, ordinaryOthers⟩ := ordinary_cons.mp ordinary
    obtain ⟨rest, rfl, continued⟩ :=
      eq_cons_of_protectAfter returned (isOrdinary_iff.mp plain).2.2.2.2
    obtain ⟨remaining, rfl⟩ := inductionHypothesis ordinaryOthers continued.symm
    exact ⟨remaining, rfl⟩

/-- Two texts, listed from the end to the start, end alike for every reader: in the same
character, and in the same run of ordinary characters. -/
def EndAlike (seen written : Text) : Prop :=
  seen.head? = written.head? ∧ seen.takeWhile isOrdinary = written.takeWhile isOrdinary

/-- The same character keeps two ends alike. -/
theorem EndAlike.cons {seen written : Text} (alike : EndAlike seen written) (first : Char) :
    EndAlike (first :: seen) (first :: written) := by
  simp [EndAlike, List.takeWhile_cons, alike.2]

/-- A delimiter makes any two ends alike. -/
theorem endAlike_of_delimiter {first : Char} (special : isOrdinary first = false)
    (seen written : Text) : EndAlike (first :: seen) (first :: written) := by
  simp [EndAlike, special]

/-- Protection returns a text in which no character is exposed.

The induction follows the text. What was read and what was written end alike throughout:
a backslash is only ever written together with the delimiter after it, which makes both ends
the same again. So a character that protection lets pass is not exposed in the result
either; for a brace this needs that a name before a closing brace in the result stood before
one in the text. -/
theorem protectAfter_inertAfter (plainFunctions : ∀ name ∈ functionNames, PlainName name)
    (plainVariables : ∀ name ∈ variableNames, PlainName name) {seen written text : Text}
    (alike : EndAlike seen written) :
    InertAfter functionNames variableNames written
      (protectAfter functionNames variableNames seen text) := by
  fun_induction protectAfter functionNames variableNames seen text generalizing written with
  | case1 => trivial
  | case2 seen first rest escaped colon =>
    rename_i inductionHypothesis
    exact ⟨backslash_not_exposed _ _, escaped_not_exposed _ _ _,
      inductionHypothesis (endAlike_of_delimiter (by decide) _ _)⟩
  | case3 seen first rest escaped notColon quote =>
    rename_i inductionHypothesis
    exact ⟨backslash_not_exposed _ _, escaped_not_exposed _ _ _,
      inductionHypothesis (endAlike_of_delimiter (by decide) _ _)⟩
  | case4 seen first rest escaped notColon notQuote brace name after known _ =>
    rename_i inductionHypothesis
    have ordinary : Ordinary name :=
      (plainVariables name (eq_append_of_knownReference? known).1).ordinary
    refine ⟨backslash_not_exposed _ _, escaped_not_exposed _ _ _, ?_⟩
    refine (inertAfter_ordinary_append ordinary).mpr ?_
    exact ⟨backslash_not_exposed _ _, escaped_not_exposed _ _ _,
      inductionHypothesis (endAlike_of_delimiter (by decide) _ _)⟩
  | case5 seen first rest escaped notColon notQuote brace unknown =>
    rename_i inductionHypothesis
    refine ⟨?_, inductionHypothesis (alike.cons '{')⟩
    rintro ⟨_, ⟨impossible, _⟩ | impossible | ⟨_, name, after, known⟩⟩
    · exact absurd impossible (by decide)
    · exact absurd impossible (by decide)
    · obtain ⟨member, returned⟩ := eq_append_of_knownReference? known
      have plain : PlainName name := plainVariables name member
      obtain ⟨remaining, rfl⟩ := eq_append_of_protectAfter plain.ordinary returned
      obtain ⟨found, others, missed⟩ := exists_knownReference? member plain.nonempty remaining
      rw [unknown] at missed
      simp at missed
  | case6 seen first rest escaped notColon notQuote notBrace =>
    rename_i inductionHypothesis
    refine ⟨?_, inductionHypothesis (alike.cons first)⟩
    rintro ⟨bare, exposed⟩
    have unescaped : escaped = false := by
      rw [← alike.1] at bare
      simpa [escaped] using bare
    rcases exposed with ⟨rfl, follows⟩ | rfl | ⟨rfl, _⟩
    · rw [← followsName_congr plainFunctions alike.2] at follows
      simp [unescaped, follows] at notColon
    · simp [unescaped] at notQuote
    · simp [unescaped] at notBrace

/-- Protection leaves a text alone in which no character is exposed. -/
theorem protectAfter_eq_self {seen text : Text}
    (inert : InertAfter functionNames variableNames seen text) :
    protectAfter functionNames variableNames seen text = text := by
  fun_induction protectAfter functionNames variableNames seen text with
  | case1 => rfl
  | case2 seen first rest escaped colon inductionHypothesis =>
    simp only [Bool.and_eq_true, beq_iff_eq, Bool.not_eq_true', escaped] at colon
    exact absurd ⟨by simpa using colon.1.2, Or.inl ⟨colon.1.1, colon.2⟩⟩ inert.1
  | case3 seen first rest escaped notColon quote inductionHypothesis =>
    simp only [Bool.and_eq_true, beq_iff_eq, Bool.not_eq_true', escaped] at quote
    exact absurd ⟨by simpa using quote.2, Or.inr (Or.inl quote.1)⟩ inert.1
  | case4 seen first rest escaped notColon notQuote brace name after known _ inductionHypothesis =>
    simp only [Bool.and_eq_true, beq_iff_eq, Bool.not_eq_true', escaped] at brace
    exact absurd ⟨by simpa using brace.2, Or.inr (Or.inr ⟨brace.1, name, after, known⟩)⟩ inert.1
  | case5 seen first rest escaped notColon notQuote brace unknown inductionHypothesis =>
    simp only [Bool.and_eq_true, beq_iff_eq] at brace
    obtain ⟨rfl, _⟩ := brace
    rw [inductionHypothesis inert.2]
  | case6 seen first rest escaped notColon notQuote notBrace inductionHypothesis =>
    rw [inductionHypothesis inert.2]

/-- Substitution finds no reference in a text in which no character is exposed. -/
theorem substituteAfter_eq_self {bindings : Dictionary Value}
    (plainVariables : ∀ name ∈ variableNames, PlainName name)
    (listed : ∀ name ∈ bindings.keys, name ∈ variableNames) {seen text : Text} {escaped : Bool}
    (tracked : escaped = (seen.head? == some '\\'))
    (inert : InertAfter functionNames variableNames seen text) :
    substituteAfter bindings escaped text = text := by
  fun_induction substituteAfter bindings escaped text generalizing seen with
  | case1 => rfl
  | case2 escaped first rest brace value after bound _ =>
    simp only [Bool.and_eq_true, beq_iff_eq, Bool.not_eq_true'] at brace
    obtain ⟨rfl, rfl⟩ := brace
    rw [boundReference?] at bound
    split at bound
    · rename_i name remaining broken
      obtain ⟨found, known, _⟩ := Option.map_eq_some_iff.mp bound
      have member : name ∈ variableNames :=
        listed name (Dictionary.mem_keys_iff.mpr ⟨found, known⟩)
      obtain ⟨rfl, _⟩ := Text.breakAt?_eq_some_iff.mp broken
      have exposed : Exposed functionNames variableNames seen '{' (name ++ '}' :: remaining) :=
        ⟨by simpa using tracked, Or.inr (Or.inr ⟨rfl, exists_knownReference? member
          (plainVariables name member).nonempty remaining⟩)⟩
      exact absurd exposed inert.1
    · simp at bound
  | case3 escaped first rest brace unbound =>
    rename_i inductionHypothesis
    simp only [Bool.and_eq_true, beq_iff_eq] at brace
    obtain ⟨rfl, _⟩ := brace
    rw [inductionHypothesis (by simp) inert.2]
  | case4 escaped first rest notBrace =>
    rename_i inductionHypothesis
    rw [inductionHypothesis (by simp) inert.2]

/-- No call to a plain name begins in a text in which no character is exposed. -/
theorem callSites_eq_nil (plainFunctions : ∀ name ∈ functionNames, PlainName name) {text : Text}
    (inert : InertAfter functionNames variableNames [] text) :
    callSites functionNames text = [] := by
  refine List.eq_nil_iff_forall_not_mem.mpr fun site member => ?_
  obtain ⟨name, listed, opener, _, before, after, rfl, _⟩ := head_of_mem_callSites member
  have plain : PlainName name := plainFunctions name listed
  have notExposed := inert.not_exposed
  rw [List.append_nil, List.reverse_append] at notExposed
  have follows : Text.followsName functionNames (name.reverse ++ before.reverse) = true :=
    Text.followsName_eq_true_iff.mpr ⟨name, listed, plain.nonempty, List.prefix_append _ _⟩
  exact notExposed ⟨plain.head?_reverse_append_ne _, Or.inl ⟨rfl, follows⟩⟩

/-- Every quote of a text in which no character is exposed is escaped. -/
theorem quote_escaped {before after : Text}
    (inert : InertAfter functionNames variableNames [] (before ++ '"' :: after)) :
    before.getLast? = some '\\' := by
  have notExposed := inert.not_exposed
  rw [List.append_nil] at notExposed
  refine Decidable.byContradiction fun unescaped => notExposed ⟨?_, Or.inr (Or.inl rfl)⟩
  rwa [List.head?_reverse]

/-- What a function returns is inert once it is protected: its quotes are escaped, no call
begins in it, substitution does not change it, and neither does protecting it again.

Proof: no character of a protected text is exposed, and each of the four readers acts on
exposed characters only. -/
theorem protect_inert (functionNames variableNames : List Text) (result : Text)
    (plainFunctions : ∀ name ∈ functionNames, PlainName name)
    (plainVariables : ∀ name ∈ variableNames, PlainName name) :
    (∀ before after, protect functionNames variableNames result = before ++ '"' :: after →
        before.getLast? = some '\\') ∧
      callSites functionNames (protect functionNames variableNames result) = [] ∧
      (∀ bindings : Dictionary Value, (∀ name, name ∈ bindings.keys ↔ name ∈ variableNames) →
        substitute bindings (protect functionNames variableNames result) =
          protect functionNames variableNames result) ∧
      protect functionNames variableNames (protect functionNames variableNames result) =
        protect functionNames variableNames result := by
  have inert : InertAfter functionNames variableNames []
      (protect functionNames variableNames result) :=
    protectAfter_inertAfter plainFunctions plainVariables ⟨rfl, rfl⟩
  refine ⟨?_, callSites_eq_nil plainFunctions inert, ?_, protectAfter_eq_self inert⟩
  · intro before after whole
    rw [whole] at inert
    exact quote_escaped inert
  · intro bindings sameNames
    exact substituteAfter_eq_self plainVariables (fun name => (sameNames name).mp) rfl inert

/-- The laws of protection hold of a text with raw and escaped delimiters of every kind, for
names that end or begin one another. -/
theorem protect_inert_mixed :
    let functionNames : List Text := [['o', 'p', 't'], ['t']]
    let bindings : Dictionary Value :=
      Dictionary.ofList [(['x'], .bool true), (['x', 'y'], .string ['"'])]
    let result : Text :=
      ['o', 'p', 't', ':', '"', '\\', '"', '{', 'x', 'y', '}', '\\', '{', 'x', '}', '\\']
    let safe : Text :=
      ['o', 'p', 't', '\\', ':', '\\', '"', '\\', '"', '\\', '{', 'x', 'y', '\\', '}', '\\', '{',
        'x', '}', '\\']
    (∀ name ∈ functionNames, PlainName name) ∧ (∀ name ∈ bindings.keys, PlainName name) ∧
      protect functionNames bindings.keys result = safe ∧
      (∀ before after, safe = before ++ '"' :: after → before.getLast? = some '\\') ∧
      callSites functionNames safe = [] ∧ substitute bindings safe = safe ∧
      protect functionNames bindings.keys safe = safe := by
  intro functionNames bindings result safe
  have plainFunctions : ∀ name ∈ functionNames, PlainName name := by decide
  have plainVariables : ∀ name ∈ bindings.keys, PlainName name := by decide
  have shown : protect functionNames bindings.keys result = safe := by decide +kernel
  obtain ⟨quotes, sites, substituted, again⟩ :=
    protect_inert functionNames bindings.keys result plainFunctions plainVariables
  rw [shown] at quotes sites again
  have kept : substitute bindings safe = safe := shown ▸ substituted bindings fun _ => Iff.rfl
  exact ⟨plainFunctions, plainVariables, shown, quotes, sites, kept, again⟩

end Phrasebook.Template
