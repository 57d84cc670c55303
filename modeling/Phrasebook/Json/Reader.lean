import Phrasebook.Json.Number
import Phrasebook.Text.Reading

/-!
# Reading JSON

A document is read in one pass from its start, and the first problem met decides the fault.
Where a scalar of one kind is asked for and another stands, the scalar is read first, so a
malformed one is reported as malformed; where a list or an object stands instead, its
opening bracket decides. A document of which only a value is wanted may hold lists and
objects; they are passed over, down to a fixed depth, only to see that they are well formed.
-/

namespace Phrasebook.Json

open Text (following following_eq_ok_iff)

/-- The blanks of JSON. -/
def isBlank (character : Char) : Bool :=
  character == ' ' || character == '\n' || character == '\t' || character == '\r'

/-- The text without blanks at its start. -/
def skipBlanks (text : Text) : Text :=
  text.dropWhile isBlank

/-- The value of a hexadecimal digit in either case. -/
def hexValue? (character : Char) : Option Nat :=
  if character.isDigit then some (character.toNat - '0'.toNat)
  else if 'a' ≤ character ∧ character ≤ 'f' then some (character.toNat - 'a'.toNat + 10)
  else if 'A' ≤ character ∧ character ≤ 'F' then some (character.toNat - 'A'.toNat + 10)
  else none

/-- Reads four hexadecimal digits; a text of less than four bytes ends too early for them. -/
def readUnit (text : Text) : Except Fault (Nat × Text) :=
  if Text.width text < 4 then .error .truncated
  else
    match text with
    | first :: second :: third :: fourth :: rest =>
      match hexValue? first, hexValue? second, hexValue? third, hexValue? fourth with
      | some first, some second, some third, some fourth =>
        .ok (((first * 16 + second) * 16 + third) * 16 + fourth, rest)
      | _, _, _, _ => .error .malformed
    | _ => .error .malformed

/-- Reads the second half of a surrogate pair after its first half. -/
def readLowSurrogate (high : Nat) (text : Text) : Except Fault (Char × Text) :=
  match text with
  | [] => .error .truncated
  | ['\\'] => .error .truncated
  | '\\' :: 'u' :: rest =>
    match readUnit rest with
    | .error fault => .error fault
    | .ok (low, after) =>
      if 0xDC00 ≤ low ∧ low ≤ 0xDFFF then
        .ok (Char.ofNat ((high - 0xD800) * 0x400 + (low - 0xDC00) + 0x10000), after)
      else .error .malformed
  | _ => .error .malformed

/-- Reads the code of a character after `\u`; a character beyond 16 bits has two codes. -/
def readCode (text : Text) : Except Fault (Char × Text) :=
  match readUnit text with
  | .error fault => .error fault
  | .ok (code, after) =>
    if 0xDC00 ≤ code ∧ code ≤ 0xDFFF then .error .malformed
    else if 0xD800 ≤ code ∧ code ≤ 0xDBFF then readLowSurrogate code after
    else .ok (Char.ofNat code, after)

/-- Reads the character that an escape stands for, after the backslash. -/
def readEscape (text : Text) : Except Fault (Char × Text) :=
  match text with
  | [] => .error .truncated
  | '"' :: rest => .ok ('"', rest)
  | '\\' :: rest => .ok ('\\', rest)
  | '/' :: rest => .ok ('/', rest)
  | 'b' :: rest => .ok ('\x08', rest)
  | 'f' :: rest => .ok ('\x0c', rest)
  | 'n' :: rest => .ok ('\n', rest)
  | 'r' :: rest => .ok ('\r', rest)
  | 't' :: rest => .ok ('\t', rest)
  | 'u' :: rest => readCode rest
  | _ => .error .malformed

/-- Four digits leave less unread than was given. -/
theorem length_of_readUnit {text after : Text} {code : Nat}
    (read : readUnit text = .ok (code, after)) : after.length < text.length := by
  unfold readUnit at read
  split at read
  · simp at read
  · split at read
    · split at read
      · simp only [Except.ok.injEq, Prod.mk.injEq] at read
        obtain ⟨_, rfl⟩ := read
        simp only [List.length_cons]
        omega
      · simp at read
    · simp at read

/-- The second half of a pair leaves less unread than was given. -/
theorem length_of_readLowSurrogate {text after : Text} {high : Nat} {character : Char}
    (read : readLowSurrogate high text = .ok (character, after)) : after.length < text.length := by
  unfold readLowSurrogate at read
  split at read
  · simp at read
  · simp at read
  · split at read
    · simp at read
    · rename_i unit
      split at read
      · simp only [Except.ok.injEq, Prod.mk.injEq] at read
        obtain ⟨_, rfl⟩ := read
        have shorter := length_of_readUnit unit
        simp only [List.length_cons]
        omega
      · simp at read
  · simp at read

/-- A code leaves less unread than was given. -/
theorem length_of_readCode {text after : Text} {character : Char}
    (read : readCode text = .ok (character, after)) : after.length < text.length := by
  rw [readCode] at read
  split at read
  · simp at read
  · rename_i unit
    have shorter := length_of_readUnit unit
    split at read
    · simp at read
    · split at read
      · have shortest := length_of_readLowSurrogate read
        omega
      · simp only [Except.ok.injEq, Prod.mk.injEq] at read
        obtain ⟨_, rfl⟩ := read
        exact shorter

/-- An escape leaves less unread than was given. -/
theorem length_of_readEscape {text after : Text} {character : Char}
    (read : readEscape text = .ok (character, after)) : after.length < text.length := by
  unfold readEscape at read
  split at read
  case h_10 =>
    have shorter := length_of_readCode read
    simp only [List.length_cons]
    omega
  all_goals
    first
    | (simp only [Except.ok.injEq, Prod.mk.injEq] at read
       obtain ⟨_, rfl⟩ := read
       simp)
    | simp at read

/-- Reads a string after its opening quote, and its closing quote. -/
def readString (text : Text) : Except Fault (Text × Text) :=
  match text with
  | [] => .error .truncated
  | first :: rest =>
    if first = '"' then .ok ([], rest)
    else if first = '\\' then
      match escape : readEscape rest with
      | .error fault => .error fault
      | .ok (character, after) =>
        have : after.length < rest.length := length_of_readEscape escape
        following character (readString after)
    else if first.toNat < 0x20 then .error .malformed
    else following first (readString rest)
termination_by text.length
decreasing_by
  all_goals simp_wf
  all_goals omega

/-- Reads a word letter by letter. -/
def readWord : (word : Text) → Text → Except Fault Text
  | [], rest => .ok rest
  | _ :: _, [] => .error .truncated
  | letter :: letters, first :: rest =>
    if letter = first then readWord letters rest else .error .malformed

/-- Reads a scalar; null is no value. -/
def readScalar (text : Text) : Except Fault (Option Value × Text) :=
  match text with
  | [] => .error .truncated
  | first :: rest =>
    if first = '"' then
      (readString rest).map fun (content, after) => (some (.string content), after)
    else if first = 'n' then (readWord "null".toList text).map fun after => (none, after)
    else if first = 't' then
      (readWord "true".toList text).map fun after => (some (.bool true), after)
    else if first = 'f' then
      (readWord "false".toList text).map fun after => (some (.bool false), after)
    else if first = '-' then (readNumber true rest).map fun (value, after) => (some value, after)
    else if first.isDigit then (readNumber false text).map fun (value, after) => (some value, after)
    else .error .malformed

/-- Whether nothing but blanks is left after a document. -/
def readEnd (text : Text) : Except Fault Unit :=
  if (skipBlanks text).isEmpty then .ok () else .error .malformed

/-- The fault where a document of another kind is asked for. -/
def mismatch {α : Type} (text : Text) : Except Fault α :=
  match text with
  | '[' :: _ => .error .mismatched
  | '{' :: _ => .error .mismatched
  | _ =>
    match readScalar text with
    | .error fault => .error fault
    | .ok _ => .error .mismatched

end Phrasebook.Json
