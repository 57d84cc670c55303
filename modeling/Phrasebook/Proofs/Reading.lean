import Phrasebook.Proofs.Names

/-!
# What a reader takes and leaves

A reader of arguments takes characters from the front of its text and leaves the rest as it
is. Here this is said for both of its answers: the text left unread ends the text that was
given, and so does the text handed back with a failure, which begins with the quote or the
brace that was never closed.
-/

namespace Phrasebook.Text

/-- A reader that puts an item in front fails exactly as the reader behind it. -/
theorem following_eq_error_iff {ε α : Type} {item : α} {cause : ε}
    {read : Except ε (List α × Text)} :
    following item read = .error cause ↔ read = .error cause := by
  rcases read with other | ⟨items, after⟩
  · simp [following]
  · simp [following]

/-- A text that a mark does not begin has another first character, or none. -/
theorem head?_ne_of_ne_cons {mark : Char} {text : Text}
    (different : ∀ rest, text ≠ mark :: rest) : text.head? ≠ some mark := by
  intro begins
  obtain ⟨rest, same⟩ := List.head?_eq_some_iff.mp begins
  exact different rest same

end Phrasebook.Text

namespace Phrasebook.Template

open Text (following following_eq_ok_iff following_eq_error_iff)

/-- A reference inside a string is read up to its closing brace, and no quote stands in it. -/
theorem readEmbedded?_eq_some_iff {text name after : Text} :
    readEmbedded? text = some (name, after) ↔
      text = name ++ '}' :: after ∧ '}' ∉ name ∧ '"' ∉ name := by
  rw [← and_assoc, ← Text.breakAt?_eq_some_iff, readEmbedded?]
  split
  · rename_i found remaining broken
    split
    · rename_i quoted
      simp only [reduceCtorEq, broken, false_iff, not_and]
      intro same unquoted
      simp only [Option.some.injEq, Prod.mk.injEq] at same
      exact unquoted (by simpa [same.1] using quoted)
    · rename_i unquoted
      simp only [broken, iff_self_and]
      intro same
      simp only [Option.some.injEq, Prod.mk.injEq] at same
      simpa [same.1] using unquoted
  · rename_i unbroken
    simp [unbroken]

/-- The pieces of a string and its closing quote are what was read of the text. -/
theorem eq_append_of_readPieces {text after : Text} {pieces : List Piece}
    (read : readPieces text = .ok (pieces, after)) :
    text = pieces.flatMap Piece.written ++ '"' :: after := by
  fun_induction readPieces text generalizing pieces with
  | case1 => simp at read
  | case2 rest =>
    simp only [Except.ok.injEq, Prod.mk.injEq] at read
    obtain ⟨rfl, rfl⟩ := read
    rfl
  | case3 => simp at read
  | case4 second others _ inductionHypothesis =>
    obtain ⟨rest, inner, rfl⟩ := following_eq_ok_iff.mp read
    simp [Piece.written, inductionHypothesis inner]
  | case5 => simp at read
  | case6 rest name others reference _ _ _ inductionHypothesis =>
    obtain ⟨remaining, inner, rfl⟩ := following_eq_ok_iff.mp read
    obtain ⟨rfl, _⟩ := readEmbedded?_eq_some_iff.mp reference
    simp [Piece.written, inductionHypothesis inner]
  | case7 first rest _ _ _ _ inductionHypothesis =>
    obtain ⟨remaining, inner, rfl⟩ := following_eq_ok_iff.mp read
    have split := List.takeWhile_append_dropWhile (p := isPlain) (l := rest)
    rw [inductionHypothesis inner] at split
    simp [Piece.written, split]

/-- An argument is what was read of the text. -/
theorem eq_append_of_readArgument {text after : Text} {argument : Argument}
    (read : readArgument text = .ok (some (argument, after))) :
    text = argument.written ++ after := by
  unfold readArgument at read
  split at read
  · split at read
    · simp at read
    · rename_i pieces remaining inner
      simp only [Except.ok.injEq, Option.some.injEq, Prod.mk.injEq] at read
      obtain ⟨rfl, rfl⟩ := read
      simp [Argument.written, eq_append_of_readPieces inner]
  · split at read
    · simp at read
    · rename_i name remaining broken
      simp only [Except.ok.injEq, Option.some.injEq, Prod.mk.injEq] at read
      obtain ⟨rfl, rfl⟩ := read
      simp [Argument.written, (Text.breakAt?_eq_some_iff.mp broken).1]
  · simp at read

/-- The character that opens an argument of which something is not closed. A reference may be
open in an argument of its own or inside a string. -/
def Unclosed.OpenedBy (opener : Char) : Unclosed → Prop
  | .string => opener = '"'
  | .reference => IsOpener opener

/-- An argument that is not closed opens at the start of the text. -/
theorem openedBy_of_readArgument {text : Text} {unclosed : Unclosed}
    (read : readArgument text = .error unclosed) :
    ∃ opener rest, text = opener :: rest ∧ unclosed.OpenedBy opener := by
  unfold readArgument at read
  split at read
  · rename_i rest
    refine ⟨'"', rest, rfl, ?_⟩
    cases unclosed with
    | string => rfl
    | reference => exact Or.inl rfl
  · rename_i rest
    split at read
    · simp only [Except.error.injEq] at read
      exact ⟨'{', rest, rfl, read ▸ Or.inr rfl⟩
    · simp at read
  · simp at read

/-- The text that the reader of arguments leaves unread ends the text it was given. -/
theorem suffix_of_readArguments {first : Bool} {text after : Text} {arguments : List Argument}
    (read : readArguments first text = .ok (arguments, after)) :
    ∃ taken, text = taken ++ after := by
  fun_induction readArguments first text generalizing arguments with
  | case1 rest =>
    simp only [Except.ok.injEq, Prod.mk.injEq] at read
    exact ⟨[], by simp [read.2]⟩
  | case2 first rest _ inductionHypothesis =>
    obtain ⟨others, inner, _⟩ := following_eq_ok_iff.mp read
    obtain ⟨taken, rfl⟩ := inductionHypothesis inner
    exact ⟨':' :: taken, rfl⟩
  | case3 => simp at read
  | case4 =>
    simp only [Except.ok.injEq, Prod.mk.injEq] at read
    exact ⟨[], by simp [read.2]⟩
  | case5 first text _ argument rest here _ inductionHypothesis =>
    obtain ⟨others, inner, _⟩ := following_eq_ok_iff.mp read
    obtain ⟨taken, rfl⟩ := inductionHypothesis inner
    exact ⟨argument.written ++ ':' :: taken, by simp [eq_append_of_readArgument here]⟩
  | case6 first text _ argument remaining _ here =>
    simp only [Except.ok.injEq, Prod.mk.injEq] at read
    exact ⟨argument.written, by rw [eq_append_of_readArgument here, read.2]⟩

/-- A failure of the reader of arguments hands back the end of its text that begins with the
argument at fault. -/
theorem failing_of_readArguments {first : Bool} {text opening : Text} {unclosed : Unclosed}
    (read : readArguments first text = .error (unclosed, opening)) :
    readArgument opening = .error unclosed ∧ ∃ taken, text = taken ++ opening := by
  fun_induction readArguments first text with
  | case1 => simp at read
  | case2 first rest _ inductionHypothesis =>
    obtain ⟨failing, taken, rfl⟩ := inductionHypothesis (following_eq_error_iff.mp read)
    exact ⟨failing, ':' :: taken, rfl⟩
  | case3 first text _ found here =>
    simp only [Except.error.injEq, Prod.mk.injEq] at read
    obtain ⟨rfl, rfl⟩ := read
    exact ⟨here, [], rfl⟩
  | case4 => simp at read
  | case5 first text _ argument rest here _ inductionHypothesis =>
    obtain ⟨failing, taken, rfl⟩ := inductionHypothesis (following_eq_error_iff.mp read)
    exact ⟨failing, argument.written ++ ':' :: taken, by simp [eq_append_of_readArgument here]⟩
  | case6 => simp at read

/-- A quote closes a string. -/
theorem readPieces_quote (rest : Text) : readPieces ('"' :: rest) = .ok ([], rest) := by
  rw [readPieces.eq_def]
  rfl

/-- A backslash and the character after it are a piece of their own. -/
theorem readPieces_backslash (second : Char) (rest : Text) :
    readPieces ('\\' :: second :: rest) = following (.text ['\\', second]) (readPieces rest) := by
  rw [readPieces.eq_def]
  rfl

/-- A brace opens a reference. -/
theorem readPieces_brace {rest name after : Text}
    (embedded : readEmbedded? rest = some (name, after)) :
    readPieces ('{' :: rest) = following (.reference name) (readPieces after) := by
  rw [readPieces.eq_def]
  simp only [Char.reduceEq, if_false, if_true]
  split
  · simp_all
  · simp_all

/-- A plain character begins a piece that takes in all plain characters after it. -/
theorem readPieces_plain {first : Char} (plain : isPlain first = true) (rest : Text) :
    readPieces (first :: rest) =
      following (.text (first :: rest.takeWhile isPlain))
        (readPieces (rest.dropWhile isPlain)) := by
  obtain ⟨notQuote, notBrace, notBackslash⟩ := isPlain_iff.mp plain
  rw [readPieces.eq_def]
  simp [notQuote, notBrace, notBackslash]

/-- An argument that is not closed is handed back where it opens. -/
theorem readArguments_unclosed {first : Bool} {text : Text} {unclosed : Unclosed}
    (read : readArgument text = .error unclosed) :
    readArguments first text = .error (unclosed, text) := by
  fun_cases readArguments first text with
  | case1 => simp [readArgument] at read
  | case2 => simp [readArgument] at read
  | case3 => simp_all
  | case4 => simp_all
  | case5 => simp_all
  | case6 => simp_all

/-- An argument before a colon is followed by further arguments. -/
theorem readArguments_more {first : Bool} {text rest : Text} {argument : Argument}
    (read : readArgument text = .ok (some (argument, ':' :: rest))) :
    readArguments first text = following argument (readArguments false rest) := by
  fun_cases readArguments first text with
  | case1 => simp [readArgument] at read
  | case2 => simp [readArgument] at read
  | case3 => simp_all
  | case4 => simp_all
  | case5 => simp_all
  | case6 text _ last after different here =>
    rw [read] at here
    simp only [Except.ok.injEq, Option.some.injEq, Prod.mk.injEq] at here
    exact absurd here.2.symm (different rest)

/-- An argument that no colon follows is the last one. -/
theorem readArguments_last {first : Bool} {text after : Text} {argument : Argument}
    (read : readArgument text = .ok (some (argument, after))) (ended : after.head? ≠ some ':') :
    readArguments first text = .ok ([argument], after) := by
  fun_cases readArguments first text with
  | case1 => simp [readArgument] at read
  | case2 => simp [readArgument] at read
  | case3 => simp_all
  | case4 => simp_all
  | case5 text _ argument rest here =>
    rw [read] at here
    simp only [Except.ok.injEq, Option.some.injEq, Prod.mk.injEq] at here
    simp [here] at ended
  | case6 => simp_all

/-- No argument begins a text exactly if no opener does. -/
theorem readArgument_eq_none_iff {text : Text} :
    readArgument text = .ok none ↔ ∀ opener, IsOpener opener → text.head? ≠ some opener := by
  constructor
  · rintro silent opener (rfl | rfl) begins
    · obtain ⟨rest, rfl⟩ := List.head?_eq_some_iff.mp begins
      simp only [readArgument] at silent
      split at silent <;> simp at silent
    · obtain ⟨rest, rfl⟩ := List.head?_eq_some_iff.mp begins
      simp only [readArgument] at silent
      split at silent <;> simp at silent
  · intro bare
    fun_cases readArgument text with
    | case1 rest => exact absurd rfl (bare '"' (Or.inl rfl))
    | case2 rest => exact absurd rfl (bare '"' (Or.inl rfl))
    | case3 rest => exact absurd rfl (bare '{' (Or.inr rfl))
    | case4 rest => exact absurd rfl (bare '{' (Or.inr rfl))
    | case5 => rfl

/-- A separator in front of another one stands for an empty argument. -/
theorem readArguments_separator (rest : Text) :
    readArguments false (':' :: rest) = following .empty (readArguments false rest) := by
  rw [readArguments.eq_def]
  simp

/-- A text that begins neither an argument nor with a separator is left unread. -/
theorem readArguments_none {first : Bool} {text : Text} (notColon : text.head? ≠ some ':')
    (silent : readArgument text = .ok none) : readArguments first text = .ok ([], text) := by
  fun_cases readArguments first text with
  | case1 => simp at notColon
  | case2 => simp at notColon
  | case3 => simp_all
  | case4 => simp_all
  | case5 => simp_all
  | case6 => simp_all

/-- An opener introduces an argument. -/
theorem ne_nil_of_readArguments {first : Bool} {opener : Char} {rest left : Text}
    {arguments : List Argument} (opens : IsOpener opener)
    (read : readArguments first (opener :: rest) = .ok (arguments, left)) : arguments ≠ [] := by
  intro nothing
  subst nothing
  cases here : readArgument (opener :: rest) with
  | error unclosed => simp [readArguments_unclosed here] at read
  | ok begun =>
    cases begun with
    | none => exact readArgument_eq_none_iff.mp here opener opens rfl
    | some parts =>
      obtain ⟨argument, after⟩ := parts
      by_cases more : after.head? = some ':'
      · obtain ⟨others, rfl⟩ := List.head?_eq_some_iff.mp more
        rw [readArguments_more here] at read
        obtain ⟨_, _, impossible⟩ := following_eq_ok_iff.mp read
        simp at impossible
      · simp [readArguments_last here more] at read

end Phrasebook.Template
