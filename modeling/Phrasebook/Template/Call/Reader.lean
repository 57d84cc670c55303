import Phrasebook.Template.Call
import Phrasebook.Text.Reading

/-!
# Reading calls

A call is read from a byte offset of a text. Its name runs up to the first colon that no
backslash precedes. Then arguments follow, each separated from the next by a colon, for as
long as a quote or an opening brace begins one; a colon directly after a separator stands
for an empty argument, and a separator with nothing to introduce is taken along. Once a
quote or a brace is open it has to be closed: otherwise the text is at fault, and the fault
is placed at the opening of the argument.

Every reader here takes the remaining text and returns what it leaves unread, which is a
final part of what it was given.
-/

namespace Phrasebook.Template

open Text (following following_eq_ok_iff)

/-- What an argument opens and does not close. -/
inductive Unclosed where
  | string
  | reference
deriving DecidableEq

/-- The fault of an argument that opens at an offset. -/
def Unclosed.fault (function : Text) (offset : Nat) : Unclosed → Fault
  | .string => .unterminatedString function offset
  | .reference => .unterminatedVariable function offset

/-- Ordinary characters of a quoted argument. -/
def isPlain (character : Char) : Bool :=
  character != '"' && character != '{' && character != '\\'

/-- Reads a reference inside a string, after its opening brace: no quote may stand in it. -/
def readEmbedded? (text : Text) : Option (Text × Text) :=
  match text.breakAt? '}' with
  | some (name, after) => if name.contains '"' then none else some (name, after)
  | none => none

/-- What follows an embedded reference is shorter than the text. -/
theorem length_of_readEmbedded? {text name after : Text}
    (read : readEmbedded? text = some (name, after)) : after.length < text.length := by
  rw [readEmbedded?] at read
  split at read
  · rename_i found broken
    split at read
    · simp at read
    · simp only [Option.some.injEq, Prod.mk.injEq] at read
      exact read.2 ▸ Text.length_of_breakAt? broken
  · simp at read

/-- Reads the pieces of a string, after its opening quote, and the closing quote.

A backslash takes the next character with it, whichever it is. -/
def readPieces (text : Text) : Except Unclosed (List Piece × Text) :=
  match text with
  | [] => .error .string
  | first :: rest =>
    if first = '"' then .ok ([], rest)
    else if first = '\\' then
      match rest with
      | [] => .error .string
      | second :: others => following (.text [first, second]) (readPieces others)
    else if first = '{' then
      match reference : readEmbedded? rest with
      | none => .error .reference
      | some (name, others) =>
        have : others.length < rest.length := length_of_readEmbedded? reference
        following (.reference name) (readPieces others)
    else
      have : (rest.dropWhile isPlain).length ≤ rest.length :=
        (List.dropWhile_suffix isPlain).length_le
      following (.text (first :: rest.takeWhile isPlain)) (readPieces (rest.dropWhile isPlain))
termination_by text.length
decreasing_by
  all_goals simp_wf
  all_goals omega

/-- A string leaves less unread than it was given. -/
theorem length_of_readPieces {text after : Text} {pieces : List Piece}
    (read : readPieces text = .ok (pieces, after)) : after.length < text.length := by
  fun_induction readPieces text generalizing pieces with
  | case1 => simp at read
  | case2 rest => simp_all
  | case3 => simp at read
  | case4 second others _ inductionHypothesis =>
    obtain ⟨_, inner, _⟩ := following_eq_ok_iff.1 read
    have shorter := inductionHypothesis inner
    simp only [List.length_cons]
    omega
  | case5 => simp at read
  | case6 rest _ _ name others _ shorter inductionHypothesis =>
    obtain ⟨_, inner, _⟩ := following_eq_ok_iff.1 read
    have left := inductionHypothesis inner
    simp only [List.length_cons]
    omega
  | case7 first rest _ _ _ bound inductionHypothesis =>
    obtain ⟨_, inner, _⟩ := following_eq_ok_iff.1 read
    have left := inductionHypothesis inner
    simp only [List.length_cons]
    omega

/-- Reads an argument that opens with a quote or a brace; another text begins none. -/
def readArgument : Text → Except Unclosed (Option (Argument × Text))
  | '"' :: rest =>
    match readPieces rest with
    | .error unclosed => .error unclosed
    | .ok (pieces, after) => .ok (some (.quoted pieces, after))
  | '{' :: rest =>
    match Text.breakAt? '}' rest with
    | none => .error .reference
    | some (name, after) => .ok (some (.reference name, after))
  | _ => .ok none

/-- An argument leaves less unread than it was given. -/
theorem length_of_readArgument {text after : Text} {argument : Argument}
    (read : readArgument text = .ok (some (argument, after))) : after.length < text.length := by
  unfold readArgument at read
  split at read
  · split at read
    · simp at read
    · rename_i pieces remaining inner
      simp only [Except.ok.injEq, Option.some.injEq, Prod.mk.injEq] at read
      have shorter := length_of_readPieces inner
      simp only [List.length_cons, ← read.2]
      omega
  · split at read
    · simp at read
    · rename_i name remaining broken
      simp only [Except.ok.injEq, Option.some.injEq, Prod.mk.injEq] at read
      have shorter := Text.length_of_breakAt? broken
      simp only [List.length_cons, ← read.2]
      omega
  · simp at read

/-- Reads arguments for as long as there are any.

The first argument is never empty. An argument that is not closed is handed back together
with the text at its opening. -/
def readArguments (first : Bool) (text : Text) : Except (Unclosed × Text) (List Argument × Text) :=
  match text with
  | ':' :: rest =>
    if first then .ok ([], ':' :: rest) else following .empty (readArguments false rest)
  | text =>
    match read : readArgument text with
    | .error unclosed => .error (unclosed, text)
    | .ok none => .ok ([], text)
    | .ok (some (argument, ':' :: rest)) =>
      have : rest.length + 1 < text.length := length_of_readArgument read
      following argument (readArguments false rest)
    | .ok (some (argument, after)) => .ok ([argument], after)
termination_by text.length
decreasing_by
  all_goals simp_wf
  all_goals omega

/-- Reads a name up to the first colon that no backslash precedes, and that colon. -/
def readName? (escaped : Bool) : Text → Option (Text × Text)
  | [] => none
  | first :: rest =>
    if first == ':' && !escaped then some ([], rest)
    else (readName? (first == '\\') rest).map fun (name, after) => (first :: name, after)

/-- Reads the call at the start of a text, which stands at the given byte offset. -/
def Call.readHere (start : Nat) (escaped : Bool) (text : Text) : Except Fault Call :=
  match readName? escaped text with
  | none => .error (.missingSeparator start)
  | some (name, written) =>
    match readArguments true written with
    | .error (unclosed, opening) =>
      .error (unclosed.fault name (start + (text.width - opening.width)))
    | .ok (arguments, after) =>
      .ok {
        name := name
        arguments := arguments
        start := start
        stop := start + (text.width - after.width)
        trailing := Trailing.of? after }

/-- Reads the call at a byte offset of a text, if a character begins or the text ends there. -/
def Call.read? (text : Text) (start : Nat) : Option (Except Fault Call) :=
  (text.cut? start).map fun (before, rest) =>
    Call.readHere start (before.getLast? == some '\\') rest

end Phrasebook.Template
