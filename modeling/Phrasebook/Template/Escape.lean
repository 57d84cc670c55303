import Phrasebook.Text

/-!
# Escaped delimiters

Four characters have a meaning in a template: the colon, the quote and both braces. A
backslash directly before one of them escapes it, and a longer run of backslashes escapes
it more than once. Stripping takes off one level: a run of one backslash goes away and a
longer run becomes one backslash. Backslashes before other characters are ordinary text.

Protecting a text adds the backslashes that keep it from being read as a call, as the end
of a quoted argument or as a reference to a variable. What is escaped already stays as it is.
-/

namespace Phrasebook.Template

/-- The characters with a meaning in templates. -/
def isDelimiter (character : Char) : Bool :=
  character == ':' || character == '"' || character == '{' || character == '}'

/-- Whether a backslash stands directly before a byte offset of the text. -/
def isEscaped (text : Text) (offset : Nat) : Bool :=
  match text.cut? offset with
  | some (before, _) => before.getLast? == some '\\'
  | none => false

/-- A place between two parts of a text is escaped by the last character of the first part. -/
theorem isEscaped_append (before after : Text) :
    isEscaped (before ++ after) (Text.width before) = (before.getLast? == some '\\') := by
  rw [isEscaped, Text.cut?_append]

/-- Strips a text that follows a run of backslashes of the given length. -/
def stripAfter : Nat → Text → Text
  | run, [] => List.replicate run '\\'
  | run, first :: rest =>
    if first = '\\' then stripAfter (run + 1) rest
    else if isDelimiter first then
      (if 1 < run then ['\\'] else []) ++ first :: stripAfter 0 rest
    else List.replicate run '\\' ++ first :: stripAfter 0 rest

/-- Takes one level of escaping off every escaped delimiter. -/
def strip (text : Text) : Text :=
  stripAfter 0 text

/-- The first listed name that stands here before a closing brace, and what follows the brace. -/
def knownReference? (names : List Text) (text : Text) : Option (Text × Text) :=
  names.findSome? fun name =>
    if name.isEmpty then none
    else
      match name.isPrefixOf? text with
      | some ('}' :: after) => some (name, after)
      | _ => none

/-- A text with a leading part taken away is no longer than before. -/
theorem length_of_isPrefixOf? {lead text after : Text}
    (stripped : lead.isPrefixOf? text = some after) : after.length ≤ text.length := by
  induction lead generalizing text with
  | nil =>
    obtain rfl := Option.some.inj stripped
    exact Nat.le_refl _
  | cons first rest inductionHypothesis =>
    cases text with
    | nil => exact nomatch (show none = some after from stripped)
    | cons head tail =>
      have continued : (if first == head then rest.isPrefixOf? tail else none) = some after :=
        stripped
      split at continued
      · exact Nat.le_succ_of_le (inductionHypothesis continued)
      · simp at continued

/-- What follows a known reference is shorter than the text. -/
theorem length_of_knownReference? {names : List Text} {text name after : Text}
    (known : knownReference? names text = some (name, after)) : after.length < text.length := by
  obtain ⟨candidate, _, found⟩ := List.exists_of_findSome?_eq_some known
  split at found
  · simp at found
  · split at found
    · rename_i remaining stripped
      have bound := length_of_isPrefixOf? stripped
      simp only [Option.some.injEq, Prod.mk.injEq] at found
      obtain ⟨rfl, rfl⟩ := found
      simp only [List.length_cons] at bound
      omega
    · simp at found

/-- Protects what follows the part `seen` of the text, which is given from its end to its start. -/
def protectAfter (functionNames variableNames : List Text) (seen : Text) (text : Text) : Text :=
  match text with
  | [] => []
  | first :: rest =>
    let escaped := seen.head? == some '\\'
    if first == ':' && !escaped && Text.followsName functionNames seen then
      '\\' :: ':' :: protectAfter functionNames variableNames (':' :: seen) rest
    else if first == '"' && !escaped then
      '\\' :: '"' :: protectAfter functionNames variableNames ('"' :: seen) rest
    else if first == '{' && !escaped then
      match known : knownReference? variableNames rest with
      | some (name, after) =>
        have : after.length < rest.length := length_of_knownReference? known
        '\\' :: '{' :: name ++ '\\' :: '}' ::
          protectAfter functionNames variableNames ('}' :: name.reverse ++ '{' :: seen) after
      | none => '{' :: protectAfter functionNames variableNames ('{' :: seen) rest
    else first :: protectAfter functionNames variableNames (first :: seen) rest
termination_by text.length
decreasing_by
  all_goals simp_wf
  all_goals omega

/-- Makes a text inert inside a template that knows these functions and variables.

A colon after the name of a function, every quote and every reference to a known variable
receive a backslash; what a backslash precedes already is left alone. -/
def protect (functionNames variableNames : List Text) (text : Text) : Text :=
  protectAfter functionNames variableNames [] text

end Phrasebook.Template
