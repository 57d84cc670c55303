import Phrasebook.Json.Reader

/-!
# Lists and objects that are passed over

A value is read from a whole document. If the document is a list or an object it is passed
over to its end, and only then found to be no value, so that a problem inside it is met
first. The brackets that are open are kept on a stack, which never grows beyond a fixed
depth. Each step reads a character or, at the start of a list, turns to its first item, so
twice as many steps as there are characters suffice.
-/

namespace Phrasebook.Json

/-- A bracket that is open. -/
inductive Bracket where
  | list
  | object
deriving DecidableEq

/-- What may stand next inside a list or an object. -/
inductive Expected where
  /-- A value. -/
  | value
  /-- The first item of a list, or its end. -/
  | firstItem
  /-- The first key of an object, or its end. -/
  | firstKey
  /-- A further key of an object. -/
  | key
  /-- A comma, or the end of the list or object. -/
  | separator
deriving DecidableEq

/-- One more than the number of brackets that may be open at once. -/
def depthLimit : Nat := 128

/-- Reads a key, after its opening quote, and the colon behind it. -/
def readKey (text : Text) : Except Fault (Text × Text) :=
  match readString text with
  | .error fault => .error fault
  | .ok (key, after) =>
    match skipBlanks after with
    | [] => .error .truncated
    | ':' :: rest => .ok (key, rest)
    | _ => .error .malformed

/-- Passes over the rest of the lists and objects that are open, down to the outermost. -/
def passRest : (steps : Nat) → List Bracket → Expected → Text → Except Fault Text
  | 0, _, _, _ => .error .truncated
  | _ + 1, [], _, text => .ok text
  | steps + 1, bracket :: outer, expected, text =>
    match expected, skipBlanks text with
    | _, [] => .error .truncated
    | .firstItem, ']' :: rest => passRest steps outer .separator rest
    | .firstItem, rest => passRest steps (bracket :: outer) .value rest
    | .firstKey, '}' :: rest => passRest steps outer .separator rest
    | .firstKey, '"' :: rest
    | .key, '"' :: rest =>
      match readKey rest with
      | .error fault => .error fault
      | .ok (_, after) => passRest steps (bracket :: outer) .value after
    | .firstKey, _
    | .key, _ => .error .malformed
    | .separator, first :: rest =>
      match bracket, first with
      | .list, ',' => passRest steps (.list :: outer) .value rest
      | .list, ']' => passRest steps outer .separator rest
      | .object, ',' => passRest steps (.object :: outer) .key rest
      | .object, '}' => passRest steps outer .separator rest
      | _, _ => .error .malformed
    | .value, '[' :: rest =>
      if outer.length + 2 < depthLimit then
        passRest steps (.list :: bracket :: outer) .firstItem rest
      else .error .malformed
    | .value, '{' :: rest =>
      if outer.length + 2 < depthLimit then
        passRest steps (.object :: bracket :: outer) .firstKey rest
      else .error .malformed
    | .value, rest =>
      match readScalar rest with
      | .error fault => .error fault
      | .ok (_, after) => passRest steps (bracket :: outer) .separator after

/-- Passes over a list or an object after its opening bracket. -/
def passOver (bracket : Bracket) (text : Text) : Except Fault Text :=
  passRest (2 * text.length + 2) [bracket]
    (match bracket with | .list => .firstItem | .object => .firstKey) text

/-- Reads a document that is a value. -/
def readValue (document : Text) : Except Fault Value :=
  match skipBlanks document with
  | '[' :: rest => (passOver .list rest).bind fun _ => .error .mismatched
  | '{' :: rest => (passOver .object rest).bind fun _ => .error .mismatched
  | text =>
    match readScalar text with
    | .error fault => .error fault
    | .ok (none, _) => .error .mismatched
    | .ok (some value, after) => (readEnd after).map fun _ => value

end Phrasebook.Json
