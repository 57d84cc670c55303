import Phrasebook.CommandLine.DotEnv
import Phrasebook.CommandLine.Events
import Phrasebook.CommandLine.Options
import Phrasebook.Files
import Phrasebook.Json.Writer
import Phrasebook.Renderer
import Phrasebook.Report.Diagnostic
import Phrasebook.Report.Grid

/-!
# Running a command

Running a command gives an exit code, the text of the standard output and a notice on the
standard error. The code is zero for success, 2 for misuse, 65 if a template could not be
rendered, 70 if there is no source of templates and 101 if the filter for events makes the
program break off. Files are read through a function that the caller supplies, in whatever
monad it reads files.
-/

namespace Phrasebook.CommandLine

open Json (Block)
open Report (Diagnostic Failure)
open Template (CallError)

/-- What is said on the standard error. -/
inductive Notice where
  | silent
  /-- A text as it stands. -/
  | verbatim (text : Text)
  /-- Why the command could not be carried out. -/
  | trouble (message : Text)
  /-- Explanations of faults in templates. -/
  | diagnostics (diagnostics : List Diagnostic)
  /-- How the program is used. -/
  | usage
  /-- The filter for events cannot be cut into its words. -/
  | misplacedFilter
deriving DecidableEq

/-- What comes of a run. -/
structure Outcome where
  code : Nat
  output : Text
  notice : Notice
  /-- The events that are reported before the notice. -/
  events : List Event := []
deriving DecidableEq

/-- The exit codes. -/
def success : Nat := 0
def misuse : Nat := 2
def badData : Nat := 65
def badSource : Nat := 70
def brokenOff : Nat := 101

/-- The program and its version. -/
def versionText : Text := "descript 0.1.0\n".toList

/-- A line of its own. -/
def asLine (text : Text) : Text := text ++ ['\n']

/-- Templates that are looked up, and with them the events on the way. -/
structure Opened where
  source : Source
  events : List Event := []

/-- The message without which source a command cannot do. -/
def noSourceMessage : Text :=
  "no template source: pass --templates <file> or --env".toList

/-- The source that a rendering looks templates up in; without any it is empty. -/
def openSource {m : Type → Type} [Monad m] (readFile : Text → m (Except FileError FileLines))
    (environment : Environment) : Origin → m (Except Text Opened)
  | .nowhere => pure (.ok ⟨Catalog.empty.source, []⟩)
  | .environment scheme => pure (.ok ⟨scheme.source environment, []⟩)
  | .file path => do
    match Catalog.load path (← readFile path) with
    | .error error => pure (.error error.message)
    | .ok catalog => pure (.ok ⟨catalog.source, [catalogLoaded path catalog]⟩)

/-- All templates of a source, which has to be named. -/
def gatherCatalog {m : Type → Type} [Monad m] (readFile : Text → m (Except FileError FileLines))
    (environment : Environment) : Origin → m (Except Text (Catalog × List Event))
  | .nowhere => pure (.error noSourceMessage)
  | .environment scheme => pure (.ok (scheme.catalog environment, []))
  | .file path => do
    match Catalog.load path (← readFile path) with
    | .error error => pure (.error error.message)
    | .ok catalog => pure (.ok (catalog, [catalogLoaded path catalog]))

/-- The title of a text that has no name. -/
def textTitle : Text := "<text>".toList

/-- The notice of a rendering that failed. -/
def failureNotice (source : Source) (subject : Subject) (json : Bool) (error : RenderError) :
    Notice :=
  if json then
    .verbatim (asLine (Block.object [("error".toList, Block.string error.message)]).text)
  else
    let plainNotice := Notice.verbatim (asLine ("Render error: ".toList ++ error.message))
    match error with
    | .call (.malformed fault) =>
      match subject with
      | .text content => .diagnostics [Diagnostic.ofFault textTitle content fault]
      | .named name language =>
        match source.lookup name language with
        | some template => .diagnostics [Diagnostic.ofFault name template fault]
        | none => plainNotice
    | _ => plainNotice

/-- The events of looking a template up and rendering it. -/
def subjectEvents (opened : Opened) (bindings : Dictionary Value) (subject : Subject) :
    List Event :=
  let scope : Template.Scope := ⟨bindings, Registry.builtins⟩
  match subject with
  | .text content => renderEvents scope content
  | .named name language =>
    match opened.source.lookup name language with
    | some template => templateFound :: renderEvents scope template
    | none => if language.isEmpty then [] else [languageMissing]

/-- Renders a text or the template of a name. -/
def runRender (opened : Opened) (subject : Subject) (bindings : List (Text × Value))
    (json : Bool) : Outcome :=
  let renderer : Renderer := { source := opened.source }
  let bound := Dictionary.ofList bindings
  let result :=
    match subject with
    | .text content => renderer.renderText content bound Dictionary.empty
    | .named name language => renderer.render name bound Dictionary.empty language
  let events := opened.events ++ subjectEvents opened bound subject
  match result with
  | .ok text =>
    let output :=
      if json then (Block.object [("result".toList, Block.string text)]).text else text
    ⟨success, asLine output, .silent, events⟩
  | .error error => ⟨badData, [], failureNotice opened.source subject json error, events⟩

/-- Lists the templates of a catalog with their languages. -/
def runList (catalog : Catalog) (json : Bool) : Text :=
  if json then
    (Block.list (catalog.templateNames.map fun name =>
      Block.object
        [("name".toList, Block.string name),
          ("languages".toList, Block.list ((catalog.languages name).map Block.string))])).text
  else if catalog.size = 0 then "No templates found.".toList
  else Report.catalogTable catalog

/-- A word in bold and in a colour of the terminal. -/
def highlighted (colour : Text) (word : Text) : Text :=
  "\x1b[1m\x1b[".toList ++ colour ++ 'm' :: word ++ "\x1b[39m\x1b[0m".toList

/-- The templates of a catalog that cannot be rendered without variables, with the errors. -/
def failures (catalog : Catalog) : List ((Text × Text × Text) × RenderError) :=
  let renderer : Renderer := { source := catalog.source }
  catalog.entries.filterMap fun entry =>
    match renderer.renderText entry.2.2 Dictionary.empty Dictionary.empty with
    | .ok _ => none
    | .error error => some (entry, error)

/-- A failure as it is reported. -/
def failureOf (failure : (Text × Text × Text) × RenderError) : Failure :=
  ⟨failure.1.1, failure.1.2.1, failure.2.message⟩

/-- The explanation of a failure, if the template is at fault. -/
def diagnosticOf? (failure : (Text × Text × Text) × RenderError) : Option Diagnostic :=
  match failure with
  | ((name, language, template), .call (.malformed fault)) =>
    let title := name ++ ' ' :: '[' :: Report.languageLabel language ++ [']']
    some (Diagnostic.ofFault title template fault)
  | _ => none

/-- Checks that all templates of a catalog can be rendered without variables. -/
def runCheck (catalog : Catalog) (json : Bool) : Outcome :=
  let failed := failures catalog
  let count := Nat.toDigits 10 catalog.entries.length
  let reports := failed.map failureOf
  let output :=
    if json then
      asLine (Block.list (reports.map fun failure =>
        Block.object
          [("name".toList, Block.string failure.name),
            ("language".toList, Block.string failure.language),
            ("error".toList, Block.string failure.error)])).text
    else if failed.isEmpty then
      asLine (highlighted "32".toList "ok:".toList ++ ' ' :: count ++ " templates checked".toList)
    else
      asLine (Report.failureTable reports) ++
        asLine (highlighted "31".toList "error:".toList ++ ' ' :: Nat.toDigits 10 failed.length ++
          " of ".toList ++ count ++ " templates failed".toList)
  let diagnostics := if json then [] else failed.filterMap diagnosticOf?
  let scope : Template.Scope := ⟨Dictionary.empty, Registry.builtins⟩
  let events := catalog.entries.flatMap fun entry => templateChecked :: renderEvents scope entry.2.2
  ⟨if failed.isEmpty then success else badData, output,
    if diagnostics.isEmpty then .silent else .diagnostics diagnostics, events⟩

/-- The outcome of a command that has no templates to work on. -/
def troubled (message : Text) : Outcome :=
  ⟨badSource, [], .trouble message, []⟩

/-- Carries a command out. -/
def execute {m : Type → Type} [Monad m] (readFile : Text → m (Except FileError FileLines))
    (environment : Environment) : Command → m Outcome
  | .render subject origin bindings json => do
    match ← openSource readFile environment origin with
    | .error message => pure (troubled message)
    | .ok opened => pure (runRender opened subject bindings json)
  | .list origin json => do
    match ← gatherCatalog readFile environment origin with
    | .error message => pure (troubled message)
    | .ok (catalog, events) => pure ⟨success, asLine (runList catalog json), .silent, events⟩
  | .check origin json => do
    match ← gatherCatalog readFile environment origin with
    | .error message => pure (troubled message)
    | .ok (catalog, events) =>
      let outcome := runCheck catalog json
      pure { outcome with events := events ++ outcome.events }

/-- The file of environment variables. -/
def dotenvPath : Text := ".env".toList

/-- How the program is used. -/
def usageText : Text :=
  ("Description template tools\n\n" ++
    "Usage: descript [OPTIONS] <COMMAND>\n\n" ++
    "Commands:\n" ++
    "  render  Render a template\n" ++
    "  list    List templates and their languages\n" ++
    "  check   Dry-render every template and report errors\n" ++
    "  help    Print this message\n").toList

/-- The environment with the variables of the file that the working folder may have. -/
def loadDotenv (environment : Environment) (content : Except FileError FileLines) :
    Environment × List Event :=
  match content with
  | .ok lines =>
    let (environment, complete) := DotEnv.apply environment lines
    (environment, [if complete then dotenvLoaded else dotenvMissing])
  | .error _ => (environment, [dotenvMissing])

/-- Runs the program with its arguments in an environment. -/
def run {m : Type → Type} [Monad m] (readFile : Text → m (Except FileError FileLines))
    (environment : Environment) (arguments : List Text) : m Outcome := do
  match readArguments environment arguments with
  | .error .help => pure ⟨success, usageText, .silent, []⟩
  | .error .version => pure ⟨success, versionText, .silent, []⟩
  | .error .misuse => pure ⟨misuse, [], .usage, []⟩
  | .ok request =>
    match filterOf? environment request.verbose with
    | none => pure ⟨brokenOff, [], .misplacedFilter, []⟩
    | some filter =>
      let (environment, events) ←
        if request.dotenv then pure (loadDotenv environment (← readFile dotenvPath))
        else pure (environment, [])
      let outcome ← execute readFile environment request.command
      pure { outcome with events := (events ++ outcome.events).filter (reports filter) }

end Phrasebook.CommandLine
