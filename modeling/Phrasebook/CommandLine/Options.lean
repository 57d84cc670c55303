import Phrasebook.Environment
import Phrasebook.Value

/-!
# Options of the command line

The program has three commands, each with options of its own; three options can stand before
the command as well as after it. An option is written out after two hyphens or as a single
letter after one; letters can be put together, and the value of an option stands behind an
equals sign, directly behind the letter or in the next argument. No option but the one for
variables can be given twice, and after two hyphens alone no further option follows.

Reading the arguments gives what is asked for, or finds that they are misused.
-/

namespace Phrasebook.CommandLine

/-- The options of all commands. -/
inductive Switch where
  | color
  | verbose
  | dotenv
  | help
  | version
  | text
  | templates
  | environment
  | lead
  | language
  | variable
  | json
deriving DecidableEq

/-- The places where options stand: before the command, or after one of the three. -/
inductive Level where
  | top
  | render
  | list
  | check
deriving DecidableEq

/-- An option as it is written. -/
structure SwitchForm where
  switch : Switch
  long : Text
  short : Option Char
  takesValue : Bool

/-- The options that every level has. -/
def commonForms : List SwitchForm :=
  [⟨.color, "color".toList, none, true⟩,
    ⟨.verbose, "verbose".toList, some 'v', false⟩,
    ⟨.dotenv, "dotenv".toList, none, false⟩,
    ⟨.help, "help".toList, some 'h', false⟩]

/-- The options that say where templates come from and how results are written. -/
def sourceForms : List SwitchForm :=
  [⟨.templates, "templates".toList, none, true⟩,
    ⟨.environment, "env".toList, none, false⟩,
    ⟨.lead, "prefix".toList, none, true⟩,
    ⟨.json, "json".toList, none, false⟩]

/-- The options at a level. -/
def Level.forms : Level → List SwitchForm
  | .top => ⟨.version, "version".toList, some 'V', false⟩ :: commonForms
  | .render =>
    [⟨.text, "text".toList, none, true⟩,
      ⟨.language, "lang".toList, none, true⟩,
      ⟨.variable, "var".toList, some 'V', true⟩] ++ sourceForms ++ commonForms
  | .list => sourceForms ++ commonForms
  | .check => sourceForms ++ commonForms

/-- Why no command is run. -/
inductive Stop where
  | help
  | version
  | misuse
deriving DecidableEq

/-- The options and other arguments given at a level, in their order. -/
structure Given where
  switches : List (Switch × Text) := []
  others : List Text := []

/-- The last value given for an option. -/
def Given.value? (given : Given) (switch : Switch) : Option Text :=
  (given.switches.reverse.find? fun entry => entry.1 == switch).map (·.2)

/-- Whether an option is given. -/
def Given.has (given : Given) (switch : Switch) : Bool :=
  given.switches.any fun entry => entry.1 == switch

/-- Whether a value is allowed for an option. -/
def admits (switch : Switch) (value : Text) : Bool :=
  match switch with
  | .color => value == "auto".toList || value == "always".toList || value == "never".toList
  | .templates => !value.isEmpty
  | .variable => value.contains '='
  | _ => true

/-- Takes note of an option with its value. -/
def Given.add (given : Given) (switch : Switch) (value : Text) : Except Stop Given :=
  match switch with
  | .help => .error .help
  | .version => .error .version
  | _ =>
    if admits switch value ∧ (switch = .variable ∨ ¬given.has switch) then
      .ok { given with switches := given.switches ++ [(switch, value)] }
    else .error .misuse

/-- Whether an argument can only be an option, and so no value. -/
def looksLikeSwitch : Text → Bool
  | '-' :: _ :: _ => true
  | _ => false

/-- What a word of options needs: nothing more, or the next argument as the value of one. -/
inductive Need where
  | nothing (given : Given)
  | value (given : Given) (switch : Switch)

/-- Reads an option that is written out, after its hyphens. -/
def readLong (level : Level) (given : Given) (word : Text) : Except Stop Need :=
  let (name, attached) :=
    match Text.breakAt? '=' word with
    | some (name, value) => (name, some value)
    | none => (word, none)
  match level.forms.find? fun form => form.long == name with
  | none => .error .misuse
  | some form =>
    match form.takesValue, attached with
    | true, some value => (given.add form.switch value).map .nothing
    | true, none => .ok (.value given form.switch)
    | false, none => (given.add form.switch []).map .nothing
    | false, some _ => .error .misuse

/-- Reads options that are single letters, after their hyphen. -/
def readShort (level : Level) (given : Given) : Text → Except Stop Need
  | [] => .ok (.nothing given)
  | letter :: rest =>
    match level.forms.find? fun form => form.short == some letter with
    | none => .error .misuse
    | some form =>
      if form.takesValue then
        match rest with
        | [] => .ok (.value given form.switch)
        | '=' :: value => (given.add form.switch value).map .nothing
        | value => (given.add form.switch value).map .nothing
      else
        match given.add form.switch [] with
        | .error stop => .error stop
        | .ok given => readShort level given rest

/-- Reads options and other arguments, of which a level takes at most `limit`.

At the top the first other argument is the command, and reading ends there. -/
def readLevel (level : Level) (limit : Nat) (given : Given) :
    List Text → Except Stop (Given × List Text)
  | [] => .ok (given, [])
  | argument :: rest =>
    if argument = ['-', '-'] then
      if given.others.length + rest.length ≤ limit ∧ (level ≠ .top ∨ rest.isEmpty) then
        .ok ({ given with others := given.others ++ rest }, [])
      else .error .misuse
    else if looksLikeSwitch argument then
      let read :=
        match argument with
        | '-' :: '-' :: word => readLong level given word
        | word => readShort level given word.tail
      match read with
      | .error stop => .error stop
      | .ok (.nothing given) => readLevel level limit given rest
      | .ok (.value given switch) =>
        match rest with
        | [] => .error .misuse
        | value :: rest =>
          if looksLikeSwitch value then .error .misuse
          else
            match given.add switch value with
            | .error stop => .error stop
            | .ok given => readLevel level limit given rest
    else if given.others.length < limit then
      let given := { given with others := given.others ++ [argument] }
      if level = .top then .ok (given, rest) else readLevel level limit given rest
    else .error .misuse

/-- Where templates are taken from. -/
inductive Origin where
  | nowhere
  | file (path : Text)
  | environment (scheme : KeyScheme)
deriving DecidableEq

/-- What is rendered: a text, or the template of a name in a language. -/
inductive Subject where
  | text (content : Text)
  | named (name language : Text)
deriving DecidableEq

/-- A command with its options. -/
inductive Command where
  | render (subject : Subject) (origin : Origin) (bindings : List (Text × Value)) (json : Bool)
  | list (origin : Origin) (json : Bool)
  | check (origin : Origin) (json : Bool)
deriving DecidableEq

/-- What the arguments ask for. -/
structure Request where
  command : Command
  /-- Whether a file of environment variables is read first. -/
  dotenv : Bool
  /-- Whether events are reported. -/
  verbose : Bool
deriving DecidableEq

/-- The variable that holds the leading part of keys if no option gives it. -/
def leadVariable : Text := "DESCRIPT_PREFIX".toList

/-- The leading part of keys: by option, by the environment, or as usual. -/
def leadOf (environment : Environment) (given : Given) : Except Stop Text :=
  match given.value? .lead with
  | some lead => .ok lead
  | none =>
    match List.find? (fun binding => binding.key == some leadVariable) environment with
    | none => .ok ({} : KeyScheme).lead
    | some ⟨_, some lead⟩ => .ok lead
    | some ⟨_, none⟩ => .error .misuse

/-- Where templates are taken from by the options. -/
def originOf (environment : Environment) (given : Given) : Except Stop Origin :=
  match leadOf environment given with
  | .error stop => .error stop
  | .ok lead =>
    match given.value? .templates, given.has .environment with
    | some _, true => .error .misuse
    | some path, false => .ok (.file path)
    | none, true => .ok (.environment { lead := lead })
    | none, false => .ok .nowhere

/-- What is rendered by the options; a name and a text exclude each other. -/
def subjectOf (given : Given) : Except Stop Subject :=
  match given.others, given.value? .text with
  | [], some content => .ok (.text content)
  | [name], none => .ok (.named name ((given.value? .language).getD []))
  | _, _ => .error .misuse

/-- The variables given, read loosely; of two with one name the later one counts. -/
def variablesOf (given : Given) : List (Text × Value) :=
  given.switches.filterMap fun (switch, value) =>
    if switch = .variable then
      (Text.breakAt? '=' value).map fun (name, content) => (name, Value.parseLoose content)
    else none

/-- The command of a level with its options. -/
def commandOf (environment : Environment) (level : Level) (given : Given) : Except Stop Command :=
  match originOf environment given with
  | .error stop => .error stop
  | .ok origin =>
    match level with
    | .top => .error .misuse
    | .render => (subjectOf given).map fun subject =>
      .render subject origin (variablesOf given) (given.has .json)
    | .list => .ok (.list origin (given.has .json))
    | .check => .ok (.check origin (given.has .json))

/-- The level of a command and the number of other arguments it takes. -/
def levelOf? (name : Text) : Option (Level × Nat) :=
  if name = "render".toList then some (.render, 1)
  else if name = "list".toList then some (.list, 0)
  else if name = "check".toList then some (.check, 0)
  else none

/-- What a request for help comes to: the named command, if any, has to exist. -/
def helpStop : List Text → Stop
  | [] => .help
  | [name] => if (levelOf? name).isSome ∨ name = "help".toList then .help else .misuse
  | _ => .misuse

/-- Reads the arguments of the program. -/
def readArguments (environment : Environment) (arguments : List Text) : Except Stop Request :=
  match readLevel .top 1 {} arguments with
  | .error stop => .error stop
  | .ok (top, rest) =>
    match top.others with
    | [name] =>
      if name = "help".toList then .error (helpStop rest)
      else
        match levelOf? name with
        | none => .error .misuse
        | some (level, limit) =>
          match readLevel level limit {} rest with
          | .error stop => .error stop
          | .ok (given, _) =>
            (commandOf environment level given).map fun command =>
              { command := command
                dotenv := top.has .dotenv || given.has .dotenv
                verbose := top.has .verbose || given.has .verbose }
    | _ => .error .misuse

end Phrasebook.CommandLine
