import Phrasebook.CommandLine.Logging
import Phrasebook.Renderer

/-!
# The events of the program

What the program tells of its work: that files were read, which template is looked up, checked
or rendered, and at the least severity each call that is resolved.
-/

namespace Phrasebook.CommandLine

open Template (Progress Scope callSites)

/-- The field that every event has. -/
def messageField : Text := "message".toList

/-- An event of the severity for following the work. -/
def debugEvent (part : String) (fields : List String) (message : Text) : Event :=
  ⟨.debug, part.toList, messageField :: fields.map String.toList, message⟩

/-- An event of the least severity. -/
def traceEvent (part : String) (fields : List String) (message : String) : Event :=
  ⟨.trace, part.toList, messageField :: fields.map String.toList, message.toList⟩

/-- The file of environment variables has been read. -/
def dotenvLoaded : Event :=
  debugEvent "descript" ["path"] "loaded .env".toList

/-- The file of environment variables could not be read to its end. -/
def dotenvMissing : Event :=
  debugEvent "descript" ["error"] "no .env loaded".toList

/-- A catalog has been read. -/
def catalogLoaded (path : Text) (catalog : Catalog) : Event :=
  debugEvent "descript::commands::source" ["path", "templates"]
    ("loaded catalog path=".toList ++ path ++ " templates=".toList ++ Nat.toDigits 10 catalog.size)

/-- A template is checked. -/
def templateChecked : Event :=
  debugEvent "descript::commands::check" ["name", "language"] "checking template".toList

/-- A template has been found and is rendered. -/
def templateFound : Event :=
  debugEvent "descript::interpreter::renderer" ["name", "language"] "rendering template".toList

/-- There is no template in the wanted language. -/
def languageMissing : Event :=
  debugEvent "descript::interpreter::renderer" ["name", "language"]
    "no template entry for language".toList

/-- The call at the next site is looked at. -/
def callReached : Event :=
  traceEvent "descript::interpreter::renderer" ["start"] "processing call"

/-- The text at a site has come to name no known function. -/
def callLeft : Event :=
  traceEvent "descript::interpreter::call" ["name", "start"] "leaving call to unknown function"

/-- A call has been resolved. -/
def callResolved : Event :=
  traceEvent "descript::interpreter::call" ["name", "start", "end"] "resolved call"

/-- The events of resolving the calls at some sites, up to the first that fails. -/
def siteEvents (scope : Scope) (progress : Progress) : List Nat → List Event
  | [] => []
  | start :: starts =>
    callReached ::
      match scope.resolve progress.text start with
      | .error _ => []
      | .ok none => callLeft :: siteEvents scope progress starts
      | .ok (some (text, splice)) =>
        callResolved :: siteEvents scope ⟨text, splice :: progress.splices⟩ starts

/-- The events of rendering a text. -/
def renderEvents (scope : Scope) (template : Text) : List Event :=
  siteEvents scope ⟨template, []⟩ (callSites scope.functions.keys template)

/-- The filter that is used when the environment gives none. -/
def usualFilter (verbose : Bool) : List Directive :=
  if verbose then [{ severity := .debug, part := some "descript".toList }]
  else [{ severity := .warning }]

/-- The variable that holds the filter. -/
def filterVariable : Text := "RUST_LOG".toList

/-- The filter for events: that of the environment, unless it is malformed.

There is none if the filter of the environment cannot be cut into its words. -/
def filterOf? (environment : Environment) (verbose : Bool) : Option (List Directive) :=
  match (environment.find? filterVariable).map readFilter with
  | some (.ok filter) => some filter
  | some (.error .misplaced) => none
  | some (.error .malformed) | none => some (usualFilter verbose)

end Phrasebook.CommandLine
