import Phrasebook.Text

/-!
# Call sites

A call begins wherever the name of a known function is followed by a colon and the colon by
a quote or an opening brace, unless the name itself ends in a backslash, which escapes the
colon. The search pays no heed to quotes and braces before that place, so the calls inside
the arguments of another call are found too. Sites are listed from the end of the text to
its start: a call comes before every call that contains it.
-/

namespace Phrasebook.Template

/-- Whether a call to the named function begins the text. -/
def startsCall (name text : Text) : Bool :=
  match name.isPrefixOf? text with
  | some (':' :: '"' :: _) => !name.isEmpty && name.getLast? != some '\\'
  | some (':' :: '{' :: _) => !name.isEmpty && name.getLast? != some '\\'
  | _ => false

/-- The sites in a text that begins at the given offset, in front of those found before. -/
def callSitesFrom (names : List Text) (found : List Nat) (offset : Nat) : Text → List Nat
  | [] => found
  | first :: rest =>
    callSitesFrom names
      (if names.any fun name => startsCall name (first :: rest) then offset :: found else found)
      (offset + first.utf8Size) rest

/-- The byte offsets where calls to the named functions begin, the last one first. -/
def callSites (names : List Text) (text : Text) : List Nat :=
  callSitesFrom names [] 0 text

end Phrasebook.Template
