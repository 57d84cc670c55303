import Phrasebook.CommandLine.Pattern
import Phrasebook.Number.Literal
import Phrasebook.Text.Blank

/-!
# Which events are reported

While a command runs, events occur, each of a severity and in a part of the program. A filter
decides which are reported. It is written as directives with commas between them. A directive
names the least severity that is reported, a part of the program whose events it is for, or
both with an equals sign between them; behind the part it can also name, in square brackets, a
span of time or fields that an event has to have, with a pattern for their content. Of the
directives that are for an event the most specific one decides.

The marks of a directive are looked for without the blanks around it. The words between them
are then cut out of the whole directive at the offsets of these marks: blanks in front make
the words begin and end too early, and an offset can fall inside such a blank.

No event of the program lies in a span, so that a directive with a span reports nothing.
-/

namespace Phrasebook.CommandLine

/-- How much an event matters, the most severe first; in a directive, what is reported at least. -/
inductive Severity where
  | off
  | error
  | warning
  | info
  | debug
  | trace
deriving DecidableEq

/-- The place of a severity in the order from the most severe to the least. -/
def Severity.rank : Severity → Nat
  | .off => 0
  | .error => 1
  | .warning => 2
  | .info => 3
  | .debug => 4
  | .trace => 5

/-- The severities by their names. -/
def Severity.names : List (Text × Severity) :=
  [("off".toList, .off), ("error".toList, .error), ("warn".toList, .warning),
    ("info".toList, .info), ("debug".toList, .debug), ("trace".toList, .trace)]

/-- The severity that a text names, in any letter case, or counts. -/
def Severity.ofText? (text : Text) : Option Severity :=
  match Number.readNat? (if text.head? = some '+' then text.tail else text) with
  | some rank => (names.map (·.2)).find? fun severity => severity.rank == rank
  | none => names.lookup (text.map Char.toLower)

/-- Something that happens while a command runs. -/
structure Event where
  severity : Severity
  /-- The part of the program. -/
  part : Text
  /-- The names of what is told besides the message. -/
  fields : List Text
  message : Text
deriving DecidableEq

/-- What a filter says of the events in one part of the program, or in all of it. -/
structure Directive where
  severity : Severity
  part : Option Text := none
  fields : List Text := []
  /-- Whether it is only for a span, or for fields of a certain content. -/
  spanned : Bool := false
deriving DecidableEq

/-- Why a filter cannot be read. -/
inductive FilterFault where
  /-- A directive is malformed. -/
  | malformed
  /-- A word of a directive would begin or end inside a character. -/
  | misplaced
deriving DecidableEq

/-- The word of a directive between two offsets. -/
def readWord (text : Text) (start stop : Nat) : Except FilterFault Text :=
  match (text.cut? stop).bind fun (before, _) => Text.cut? before start with
  | some (_, word) => .ok word
  | none => .error .misplaced

/-- The severity from an offset on; without one everything is reported. -/
def readThreshold (text : Text) (offset : Nat) : Except FilterFault Severity :=
  match text.cut? offset with
  | none => .error .misplaced
  | some (_, []) => .ok .trace
  | some (_, name) =>
    match Severity.ofText? name with
    | some severity => .ok severity
    | none => .error .malformed

/-- The name of a field, and whether its content is told too. -/
def readField (text : Text) : Except FilterFault (Text × Bool) :=
  if text.isEmpty then .error .malformed
  else
    match Text.breakAt? '=' text with
    | none => .ok (text, false)
    | some (name, rest) =>
      let content := rest.takeWhile (· != '=')
      if (Number.readLiteral? content).isSome || isPattern content then .ok (name, true)
      else .error .malformed

/-- A directive from where its span and fields have ended. -/
def readBehindSpan (text : Text) (directive : Directive) (offset : Nat) :
    Text → Except FilterFault Directive
  | [] => .ok directive
  | '=' :: _ => do
    let severity ← readThreshold text (offset + 1)
    return { directive with severity := severity }
  | _ => .error .malformed

/-- A directive behind its opening bracket: the name of a span, and a field in braces. -/
def readSpan (text : Text) (directive : Directive) (offset : Nat) (rest : Text) :
    Except FilterFault Directive :=
  let name := rest.takeWhile fun character => character != ']' && character != '\x7b'
  let stop := offset + Text.width name
  match rest.drop name.length with
  | [] => .error .malformed
  | mark :: rest => do
    let span ← readWord text offset stop
    if mark = ']' then readBehindSpan text { directive with spanned := true } (stop + 1) rest
    else
      match Text.breakAt? '\x7d' rest with
      | none => .error .malformed
      | some (field, rest) =>
        let fieldStop := stop + 1 + Text.width field
        let (fieldName, valued) ← readField (← readWord text (stop + 1) fieldStop)
        match rest with
        | ']' :: rest =>
          readBehindSpan text
            { directive with fields := [fieldName], spanned := !span.isEmpty || valued }
            (fieldStop + 2) rest
        | _ => .error .malformed

/-- Reads one directive. -/
def readDirective (text : Text) : Except FilterFault Directive :=
  match Text.trim text with
  | [] => .error .malformed
  | first :: rest =>
    if first = '[' then readSpan text { severity := .trace } 1 rest
    else if Text.isAlphanumeric first || first == '-' || first == ':' || first == '_' then
      let name := (first :: rest).takeWhile fun character => character != '=' && character != '['
      let stop := Text.width name
      match (first :: rest).drop name.length with
      | [] =>
        match Severity.ofText? text with
        | some severity => .ok { severity := severity }
        | none => .ok { severity := .trace, part := some text }
      | mark :: rest => do
        let part ← readWord text 0 stop
        if mark = '[' then readSpan text { severity := .trace, part := some part } (stop + 1) rest
        else return { severity := ← readThreshold text (stop + 1), part := some part }
    else .error .malformed

/-- The parts of a text between commas. -/
def commaParts : Text → List Text
  | [] => [[]]
  | first :: rest =>
    if first = ',' then [] :: commaParts rest
    else
      match commaParts rest with
      | [] => [[first]]
      | part :: parts => (first :: part) :: parts

/-- Reads a filter; empty parts say nothing, and the first fault counts. -/
def readFilter (text : Text) : Except FilterFault (List Directive) :=
  ((commaParts text).filter fun part => !part.isEmpty).mapM readDirective

namespace Directive

/-- Whether a directive is for an event. -/
def covers (directive : Directive) (event : Event) : Bool :=
  !directive.spanned && directive.part.all (·.isPrefixOf event.part) &&
    directive.fields.all fun field => event.fields.contains field

/-- How specific a directive is: by the length of the part, then by the number of fields. -/
def specificity (directive : Directive) : Nat × Nat :=
  (directive.part.elim 0 fun part => Text.width part + 1, directive.fields.length)

/-- Whether one of two directives for the same event comes before the other.

Of equally specific directives that comes first whose fields are later in the alphabet. -/
def precedes (one other : Directive) : Bool :=
  let (part, fields) := one.specificity
  let (otherPart, otherFields) := other.specificity
  otherPart < part || (otherPart == part &&
    (otherFields < fields || (otherFields == fields && other.fields < one.fields)))

/-- The directive of two that decides, the later one if neither comes before the other. -/
def prevailing (earlier later : Directive) : Directive :=
  if earlier.precedes later then earlier else later

end Directive

/-- Whether a filter reports an event. -/
def reports (filter : List Directive) (event : Event) : Bool :=
  match filter.filter fun directive => directive.covers event with
  | [] => false
  | first :: rest => event.severity.rank ≤ (rest.foldl Directive.prevailing first).severity.rank

end Phrasebook.CommandLine
