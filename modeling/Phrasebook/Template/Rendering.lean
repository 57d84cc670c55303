import Phrasebook.Text.Blank
import Phrasebook.Template.CallSite
import Phrasebook.Template.Call.Reader
import Phrasebook.Template.Escape
import Phrasebook.Template.Scope

/-!
# Rendering

The calls of a template are resolved one by one, from the last site to the first, each in
the text as the calls after it have left it. The result of a call is protected and put in
the place of the call, so that an outer call finds it inside its own argument. All sites are
found in the template itself: since a call changes nothing before its own start, an earlier
site stays where it was. When no call is left, the values of variables are put in, one
level of escaping is stripped, and the text is trimmed.

Each resolved call leaves a splice behind, and a fault in the text as it then stands is
traced back through the splices to its place in the template.
-/

namespace Phrasebook.Template

/-- Why a call could not be resolved. -/
inductive CallError where
  /-- A byte offset falls inside a character or beyond the end of the text. -/
  | misplaced (offset : Nat)
  /-- The text at the site is no call. -/
  | malformed (fault : Fault)
  /-- The function has no result for these arguments. -/
  | noResult (function : Text)
deriving DecidableEq

/-- The error in words. -/
def CallError.message : CallError → Text
  | .misplaced offset => "no character begins at offset ".toList ++ Nat.toDigits 10 offset
  | .malformed fault => fault.message
  | .noResult function => "function '".toList ++ function ++ "' returned no result".toList

/-- A replacement: the bytes from `start` to `stop` of a text became those to `landed` of the next. -/
structure Splice where
  start : Nat
  stop : Nat
  landed : Nat
deriving DecidableEq

/-- The place in the earlier text of an offset in the later one.

An offset inside the replacement goes back to where the replaced call began. -/
def Splice.trace (splice : Splice) (offset : Nat) : Nat :=
  if splice.landed ≤ offset then splice.stop + (offset - splice.landed)
  else if splice.start < offset then splice.start
  else offset

/-- The parts of a text before and after a byte offset. -/
def cutAt (text : Text) (offset : Nat) : Except CallError (Text × Text) :=
  match text.cut? offset with
  | some parts => .ok parts
  | none => .error (.misplaced offset)

namespace Scope

/-- Puts the protected result of a call in its place.

A colon that is escaped after the call is part of the text, and loses its backslash here, unless
the result ends in the name of a function, which the bare colon would turn into a call. -/
def splice (scope : Scope) (text : Text) (call : Call) (result : Text) :
    Except CallError (Text × Splice) := do
  let (before, _) ← cutAt text call.start
  let freed := call.trailing = some .colon ∧ ¬Text.endsWithName scope.functions.keys result
  let replacement := if freed then result ++ [':'] else result
  let stop := if freed then call.stop + 2 else call.stop
  let (_, after) ← cutAt text stop
  pure (before ++ replacement ++ after,
    ⟨call.start, stop, Text.width before + Text.width replacement⟩)

/-- Resolves the call at a byte offset of a text, unless it names no known function. -/
def resolve (scope : Scope) (text : Text) (start : Nat) :
    Except CallError (Option (Text × Splice)) :=
  match Call.read? text start with
  | none => .error (.misplaced start)
  | some (.error fault) => .error (.malformed fault)
  | some (.ok call) =>
    match scope.functions.find? call.name with
    | none => .ok none
    | some function =>
      match function (call.arguments.map scope.argumentText) with
      | none => .error (.noResult call.name)
      | some result =>
        (scope.splice text call (protect scope.functions.keys scope.bindings.keys result)).map some

end Scope

/-- A template with some calls resolved, and the splices that led there, the latest first. -/
structure Progress where
  text : Text
  splices : List Splice
deriving DecidableEq

/-- The place in the template of an offset in the text as it stands. -/
def Progress.trace (progress : Progress) (offset : Nat) : Nat :=
  progress.splices.foldl (fun offset splice => splice.trace offset) offset

/-- Resolves one more call; a fault is reported at its place in the template. -/
def Progress.step (scope : Scope) (progress : Progress) (start : Nat) : Except CallError Progress :=
  match scope.resolve progress.text start with
  | .error (.malformed fault) => .error (.malformed (fault.moveTo (progress.trace fault.offset)))
  | .error error => .error error
  | .ok none => .ok progress
  | .ok (some (text, splice)) => .ok ⟨text, splice :: progress.splices⟩

/-- Resolves all calls of a template. -/
def resolveCalls (scope : Scope) (template : Text) : Except CallError Progress :=
  (callSites scope.functions.keys template).foldlM (Progress.step scope) ⟨template, []⟩

/-- What remains to be done once no call is left. -/
def finish (bindings : Dictionary Value) (text : Text) : Text :=
  Text.trim (strip (substitute bindings text))

/-- The text that a template stands for in a scope. -/
def render (scope : Scope) (template : Text) : Except CallError Text :=
  (resolveCalls scope template).map fun progress => finish scope.bindings progress.text

end Phrasebook.Template
