import Mathlib.Tactic.SplitIfs
import Phrasebook.Catalog.Json
import Phrasebook.Proofs.Catalogs

/-!
# Documents are read as they were written

A string is written character by character, each as it is or by an escape that stands for it, so
its reader gives the characters back and stops at the closing quote. An object is written member
by member, and its reader gives the members back if their contents are given back. A catalog is an
object of objects of strings. Since no key is written twice and keys stand in order, reading what
was written gives the same catalog.
-/

namespace Phrasebook

namespace Json

open Text (following)

/-- The value of a hexadecimal digit is read from it. -/
theorem hexValue?_hexDigit {value : Nat} (small : value < 16) :
    hexValue? (hexDigit value) = some value := by
  have all : ∀ value : Fin 16, hexValue? (hexDigit value) = some value.val := by decide
  exact all ⟨value, small⟩

/-- A control character is read from its code. -/
theorem readCode_control {character : Char} (control : character.toNat < 0x20) (rest : Text) :
    readCode ('0' :: '0' :: hexDigit (character.toNat / 16) ::
      hexDigit (character.toNat % 16) :: rest) = .ok (character, rest) := by
  have wide : ¬Text.width ('0' :: '0' :: hexDigit (character.toNat / 16) ::
      hexDigit (character.toNat % 16) :: rest) < 4 := by
    have first := (hexDigit (character.toNat / 16)).utf8Size_pos
    have second := (hexDigit (character.toNat % 16)).utf8Size_pos
    have zero : '0'.utf8Size = 1 := rfl
    simp only [Text.width]
    omega
  have nought : hexValue? '0' = some 0 := rfl
  have value : ((0 * 16 + 0) * 16 + character.toNat / 16) * 16 + character.toNat % 16 =
      character.toNat := by
    omega
  have high : hexValue? (hexDigit (character.toNat / 16)) = some (character.toNat / 16) :=
    hexValue?_hexDigit (by omega)
  have low : hexValue? (hexDigit (character.toNat % 16)) = some (character.toNat % 16) :=
    hexValue?_hexDigit (by omega)
  have unit : readUnit ('0' :: '0' :: hexDigit (character.toNat / 16) ::
      hexDigit (character.toNat % 16) :: rest) = .ok (character.toNat, rest) := by
    rw [readUnit, if_neg wide]
    simp only [nought, high, low, value]
  rw [readCode, unit]
  simp only
  rw [if_neg (by omega), if_neg (by omega), Char.ofNat_toNat]

/-- A character is written as it is, or by an escape that is read as it. -/
theorem escapeChar_cases (character : Char) :
    (escapeChar character = [character] ∧ character ≠ '"' ∧ character ≠ '\\' ∧
        ¬character.toNat < 0x20) ∨
      ∃ code, escapeChar character = '\\' :: code ∧
        ∀ rest, readEscape (code ++ rest) = .ok (character, rest) := by
  unfold escapeChar
  split_ifs with quote backslash backspace tab newline feed carriage control
  case neg => exact Or.inl ⟨rfl, quote, backslash, control⟩
  -- the last of the cases that are left is written by its code, the others by a letter
  on_goal 8 => exact Or.inr ⟨_, rfl, fun rest => readCode_control control rest⟩
  all_goals
    subst_vars
    exact Or.inr ⟨_, rfl, fun _ => rfl⟩

/-- A written character is read in front of what follows it. -/
theorem readString_escapeChar (character : Char) (rest : Text) :
    readString (escapeChar character ++ rest) = following character (readString rest) := by
  rcases escapeChar_cases character with
    ⟨plain, notQuote, notBackslash, visible⟩ | ⟨code, escaped, read⟩
  · rw [plain, List.singleton_append, readString, if_neg notQuote, if_neg notBackslash,
      if_neg visible]
  · rw [escaped, List.cons_append, readString, if_neg (by decide), if_pos rfl]
    split
    · rename_i fault failed
      rw [read rest] at failed
      cases failed
    · rename_i found after succeeded
      rw [read rest] at succeeded
      cases succeeded
      rfl

/-- A written string is read up to its closing quote. -/
theorem readString_written (content rest : Text) :
    readString (content.flatMap escapeChar ++ '"' :: rest) = .ok (content, rest) := by
  induction content with
  | nil => rw [List.flatMap_nil, List.nil_append, readString, if_pos rfl]
  | cons first others inductionHypothesis =>
    rw [List.flatMap_cons, List.append_assoc, readString_escapeChar, inductionHypothesis]
    rfl

/-- A written key is read up to the colon behind it. -/
theorem readKey_written (key rest : Text) :
    readKey (key.flatMap escapeChar ++ '"' :: ':' :: rest) = .ok (key, rest) := by
  rw [readKey, readString_written]
  rfl

/-- What is written for a value is read as this value, whatever follows, and begins with no
blank. -/
structure ReadsBack {α : Type} (write : α → Text) (read : Text → Except Fault (α × Text)) :
    Prop where
  read_write : ∀ value rest, read (write value ++ rest) = .ok (value, rest)
  skipBlanks_write : ∀ value rest, skipBlanks (write value ++ rest) = write value ++ rest

end Json

namespace Catalog

open Json (ReadsBack skipBlanks)

variable {α : Type} {write : α → Text} {read : Text → Except Json.Fault (α × Text)}

/-- A member of an object: its key and what is written for its content. -/
def memberText (write : α → Text) (member : Text × α) : Text :=
  Json.stringText member.1 ++ ':' :: write member.2

/-- A member in front of some text, character by character. -/
theorem memberText_append (write : α → Text) (member : Text × α) (rest : Text) :
    memberText write member ++ rest = '"' ::
      (member.1.flatMap Json.escapeChar ++ '"' :: ':' :: (write member.2 ++ rest)) := by
  simp [memberText, Json.stringText]

/-- A member in front of the closing brace is the last one. -/
theorem readMembers_last (back : ReadsBack write read) (member : Text × α) (bound : Nat)
    (first : Bool) (rest : Text) :
    readMembers read (bound + 1) first (memberText write member ++ '}' :: rest) =
      .ok ([member], rest) := by
  have closed : skipBlanks ('}' :: rest) = '}' :: rest := rfl
  rw [memberText_append, readMembers, skipBlanks, List.dropWhile_cons_of_neg (by decide)]
  simp only [Json.readKey_written, back.skipBlanks_write, back.read_write, closed]

/-- A member in front of a comma is read in front of the other members. -/
theorem readMembers_more (back : ReadsBack write read) (member : Text × α) (bound : Nat)
    (first : Bool) (rest : Text) :
    readMembers read (bound + 1) first (memberText write member ++ ',' :: rest) =
      Text.following member (readMembers read bound false rest) := by
  have separated : skipBlanks (',' :: rest) = ',' :: rest := rfl
  rw [memberText_append, readMembers, skipBlanks, List.dropWhile_cons_of_neg (by decide)]
  simp only [Json.readKey_written, back.skipBlanks_write, back.read_write, separated]

/-- Members with a comma between neighbours. -/
def membersText (write : α → Text) (members : List (Text × α)) : Text :=
  Text.join [','] (members.map (memberText write))

/-- A single member stands without a comma. -/
theorem membersText_singleton (write : α → Text) (member : Text × α) :
    membersText write [member] = memberText write member := by
  simp [membersText, Text.join]

/-- Behind a member and a comma stand the other members. -/
theorem membersText_cons_cons (write : α → Text) (member next : Text × α)
    (members : List (Text × α)) :
    membersText write (member :: next :: members) =
      memberText write member ++ ',' :: membersText write (next :: members) := by
  simp [membersText, Text.join, List.intercalate_cons_cons]

/-- A text of members is longer than the number of members that follow the first. -/
theorem length_lt_length_membersText (write : α → Text) (member : Text × α)
    (members : List (Text × α)) :
    members.length < (membersText write (member :: members)).length := by
  induction members generalizing member with
  | nil => simp [membersText_singleton, memberText, Json.stringText]
  | cons next members inductionHypothesis =>
    have shorter := inductionHypothesis next
    rw [membersText_cons_cons, List.length_append]
    simp only [List.length_cons] at shorter ⊢
    omega

/-- Members are read as they were written, if there are any, up to the closing brace. -/
theorem readMembers_written (back : ReadsBack write read) (member : Text × α)
    (members : List (Text × α)) {bound : Nat} (enough : members.length < bound) (first : Bool)
    (rest : Text) :
    readMembers read bound first (membersText write (member :: members) ++ '}' :: rest) =
      .ok (member :: members, rest) := by
  obtain ⟨bound, rfl⟩ : ∃ fewer, bound = fewer + 1 := ⟨bound - 1, by omega⟩
  induction members generalizing member bound first with
  | nil => rw [membersText_singleton, readMembers_last back]
  | cons next members inductionHypothesis =>
    obtain ⟨fewer, rfl⟩ : ∃ fewer, bound = fewer + 1 :=
      ⟨bound - 1, by simp only [List.length_cons] at enough; omega⟩
    rw [membersText_cons_cons, List.append_assoc, List.cons_append, readMembers_more back,
      inductionHypothesis next false fewer (by simpa using enough)]
    rfl

/-- Dictionaries are read as they were written if their contents are. -/
theorem readsBack_object (back : ReadsBack write read) :
    ReadsBack
      (fun dictionary : Dictionary α =>
        Json.objectText (dictionary.entries.map fun (key, content) => (key, write content)))
      (readObject read) where
  read_write := by
    intro dictionary rest
    have written : Json.objectText
        (dictionary.entries.map fun (key, content) => (key, write content)) ++ rest =
        '{' :: (membersText write dictionary.entries ++ '}' :: rest) := by
      have texts : (fun member : Text × α => Json.stringText member.1 ++ ':' :: write member.2) =
          memberText write := rfl
      simp [Json.objectText, membersText, Function.comp_def, texts]
    have members : readMembers read
        ((membersText write dictionary.entries ++ '}' :: rest).length + 1) true
        (membersText write dictionary.entries ++ '}' :: rest) = .ok (dictionary.entries, rest) := by
      cases dictionary.entries with
      | nil => rfl
      | cons member others =>
        refine readMembers_written back member others ?_ true rest
        have longer := length_lt_length_membersText write member others
        rw [List.length_append]
        omega
    rw [written, readObject, members]
    simp only [Dictionary.ofList_entries]
  skipBlanks_write := by
    intro dictionary rest
    rfl

/-- Templates are read as they were written. -/
theorem readsBack_template : ReadsBack Json.stringText readTemplate where
  read_write := by
    intro template rest
    have written : Json.stringText template ++ rest =
        '"' :: (template.flatMap Json.escapeChar ++ '"' :: rest) := by
      simp [Json.stringText]
    rw [written, readTemplate, Json.readString_written]
  skipBlanks_write := by
    intro template rest
    rfl

/-- A catalog is read from its document as it was written, so catalogs with the same document are
the same.

Proof: the document is an object whose contents are objects whose contents are strings, and each of
these is read as it was written. -/
theorem document_restores :
    (∀ catalog : Catalog, ofJson catalog.toJson = .ok catalog) ∧
      Function.Injective toJson := by
  have restores (catalog : Catalog) : ofJson catalog.toJson = .ok catalog := by
    have back := readsBack_object (readsBack_object readsBack_template)
    have read := back.read_write catalog.names []
    have unblanked := back.skipBlanks_write catalog.names []
    rw [List.append_nil] at read unblanked
    have document : skipBlanks catalog.toJson = catalog.toJson := unblanked
    have names : readObject (readObject readTemplate) catalog.toJson =
        .ok (catalog.names, []) := read
    rw [ofJson, document, names]
    rfl
  refine ⟨restores, fun first second same => ?_⟩
  have equal : Except.ok first = (Except.ok second : Except Json.Fault Catalog) := by
    rw [← restores first, ← restores second, same]
  exact Except.ok.inj equal

end Catalog

end Phrasebook
