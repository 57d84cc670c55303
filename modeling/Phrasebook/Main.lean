import Phrasebook.CommandLine.Run

/-!
# The program

The program takes its arguments, its environment and its files from the system, runs the
command and prints what comes of it.
-/

namespace Phrasebook

open CommandLine

/-- The variables in a sequence of bytes, in which a byte zero ends each of them. -/
def splitVariables (bytes : List UInt8) : List (List UInt8) :=
  (bytes.splitBy fun before _ => before != 0).map fun part => part.filter (· != 0)

/-- A variable of the environment in bytes, its key being separated by an equals sign. -/
def bindingOfBytes (bytes : List UInt8) : Option EnvironmentVariable :=
  let key := bytes.takeWhile (· != 61)
  match bytes.drop key.length with
  | _ :: content => some ⟨Text.ofBytes? key, Text.ofBytes? content⟩
  | [] => none

/-- The environment of this process. -/
def processEnvironment : IO Environment := do
  try
    let bytes ← IO.FS.readBinFile "/proc/self/environ"
    return (splitVariables bytes.toList).filterMap bindingOfBytes
  catch _ => return []

/-- Reads a file of the system. -/
def readSystemFile (path : Text) : IO (Except FileError FileLines) := do
  try
    let bytes ← IO.FS.readBinFile (String.ofList path)
    return .ok (FileLines.ofBytes bytes.toList)
  catch error =>
    match error with
    | .noFileOrDirectory .. => return .error .notFound
    | .inappropriateType .. => return .error .isFolder
    | _ => return .error (.other error.toString.toList)

/-- A diagnostic for the terminal. -/
def diagnosticLines (diagnostic : Report.Diagnostic) : String :=
  String.ofList (diagnostic.code ++ '\n' :: diagnostic.message ++ '\n' :: diagnostic.title ++
    ", offset ".toList ++ Nat.toDigits 10 diagnostic.offset ++ ": ".toList ++ diagnostic.label ++
    "\nhelp: ".toList ++ diagnostic.help)

/-- An event for the terminal. -/
def eventLine (event : Event) : String :=
  let severity := if event.severity = .trace then "TRACE" else "DEBUG"
  severity ++ " " ++ String.ofList (event.part ++ ": ".toList ++ event.message)

/-- Prints what is said on the standard error. -/
def printNotice : Notice → IO Unit
  | .silent => pure ()
  | .verbatim text => IO.eprint (String.ofList text)
  | .trouble message => IO.eprintln (String.ofList message)
  | .diagnostics diagnostics =>
    diagnostics.forM fun diagnostic => IO.eprintln (diagnosticLines diagnostic)
  | .usage => IO.eprint (String.ofList usageText)
  | .misplacedFilter => IO.eprintln "the filter for events cannot be cut inside a character"

end Phrasebook

/-- Runs the program. -/
def main (arguments : List String) : IO UInt32 := do
  let environment ← Phrasebook.processEnvironment
  let outcome ← Phrasebook.CommandLine.run Phrasebook.readSystemFile environment
    (arguments.map String.toList)
  outcome.events.forM fun event => IO.eprintln (Phrasebook.eventLine event)
  Phrasebook.printNotice outcome.notice
  IO.print (String.ofList outcome.output)
  return outcome.code.toUInt32
