import FieldSchema.Config
import FieldSchema.Report

/-!
# The Command

What the program does with its arguments.

There are three subcommands. Two print the singular or the plural form of
each word on a line of its own, and the third reports on plural field names.
All of them take the vocabulary from a configuration file if one is named.

The subcommand comes first. After it, words and options may be mixed, an
option takes its value from the next argument or after an equals sign, and
everything after a double dash is a word. There must be a word, no option may
come twice, and an option must be one that the subcommand knows.

Reading files is left to the caller, so that all of this is a function.

## Main definitions

* `Command`: What the arguments ask for.
* `Command.parse?`: The command that arguments describe.
* `Command.run`: What a command prints, and its exit status.
* `runArguments`: The program as a function of its arguments and the files.
-/

namespace FieldSchema

/-- How reports are written. -/
inductive ReportFormat where
  | table
  | json
deriving DecidableEq

/-- What the arguments ask for. -/
inductive Command where
  | inflect (form : Form) (words : List String) (config : Option String)
  | check (names : List String) (config : Option String) (format : ReportFormat)
deriving DecidableEq

/-- The arguments of a subcommand that have been read so far, the words latest first. -/
structure Arguments where
  words : List String := []
  config : Option String := none
  format : Option ReportFormat := none

namespace Arguments

/-- The file that the configuration is read from; it must have a name and be given once. -/
def setConfig? (a : Arguments) (path : String) : Option Arguments :=
  if a.config.isSome || path.isEmpty then none else some { a with config := some path }

/-- The format of reports; it must be one of the formats and be given once. -/
def setFormat? (a : Arguments) (name : String) : Option Arguments :=
  if a.format.isSome then none
  else
    match name with
    | "table" => some { a with format := some .table }
    | "json" => some { a with format := some .json }
    | _ => none

/-- The argument begins with a dash and is more than the dash. -/
def isOption (argument : String) : Bool :=
  match argument.toList with
  | '-' :: _ :: _ => true
  | _ => false

/-- The text after an option's name and an equals sign. -/
def valueAfter? (name argument : String) : Option String :=
  let start := name.toList ++ ['=']
  if start.isPrefixOf argument.toList then some (.ofList (argument.toList.drop start.length))
  else none

/-- The option that an argument names, with what sets it. -/
def setter? (reports : Bool) (name : String) : Option (Arguments → String → Option Arguments) :=
  match name with
  | "--config" => some setConfig?
  | "--format" => if reports then some setFormat? else none
  | _ => none

/-- An option whose value follows an equals sign. -/
def setJoined? (reports : Bool) (a : Arguments) (argument : String) : Option Arguments :=
  ["--config", "--format"].findSome? fun name =>
    match valueAfter? name argument, setter? reports name with
    | some value, some set => set a value
    | _, _ => none

/-- Reads the arguments after the subcommand; only reports have a format. -/
def read? (reports : Bool) : Arguments → List String → Option Arguments
  | a, [] => some a
  | a, argument :: rest =>
      if argument = "--" then some { a with words := rest.reverse ++ a.words }
      else if isOption argument then
        match setter? reports argument, rest with
        | some set, value :: rest =>
            if isOption value then none
            else
              match set a value with
              | some a => read? reports a rest
              | none => none
        | some _, [] => none
        | none, rest =>
            match setJoined? reports a argument with
            | some a => read? reports a rest
            | none => none
      else read? reports { a with words := argument :: a.words } rest

end Arguments

/-- What the caller finds when it reads a file. -/
inductive Contents where
  | absent
  | unreadable
  | text (text : String)

/-- What the program prints, and its exit status. -/
structure Output where
  exit : Nat
  stdout : String
  stderr : String
deriving DecidableEq

/-- The wording of a refusal. -/
def InvalidPattern.detail (e : InvalidPattern) : String :=
  match e.cause with
  | .unreadable =>
      "regex parse error:\n    " ++ e.source ++ "\nerror: the text does not describe a pattern"
  | .tooLarge =>
      "Compiled regex exceeds size limit of " ++ toString Pattern.Layout.mostBytes ++ " bytes."

namespace ConfigFault

/-- The wording of the fault. -/
def message : ConfigFault → String
  | .absent => "I/O error: No such file or directory (os error 2)"
  | .malformed => "YAML error: the document does not describe a configuration"
  | .pattern e => "inflection error: " ++ e.message ++ ": " ++ e.detail

end ConfigFault

namespace Command

/-- The command that arguments describe. -/
def parse? : List String → Option Command
  | "singularize" :: rest => words? rest fun a => .inflect .singular a.words.reverse a.config
  | "pluralize" :: rest => words? rest fun a => .inflect .plural a.words.reverse a.config
  | "check" :: rest => do
      let a ← Arguments.read? true {} rest
      if a.words.isEmpty then none
      else some (.check a.words.reverse a.config (a.format.getD .table))
  | _ => none
where
  /-- The command for arguments that are words. -/
  words? (rest : List String) (command : Arguments → Command) : Option Command := do
    let a ← Arguments.read? false {} rest
    if a.words.isEmpty then none else some (command a)

/-- The configuration in a file, or the default if no file is named. -/
def loadConfig (file : String → Contents) : Option String → Except String Config
  | none => .ok {}
  | some path =>
      let found : Except ConfigFault Config :=
        match file path with
        | .absent => .error .absent
        | .unreadable => .error .malformed
        | .text text =>
            match Config.parse? text with
            | some config => .ok config
            | none => .error .malformed
      found.mapError fun fault => "Failed to load config '" ++ path ++ "': " ++ fault.message

/-- The inflector of a configuration. -/
def loadInflector (config : Config) : Except String Inflector :=
  config.inflector.mapError fun e => (ConfigFault.pattern e).message

/-- A failure is reported on the error output and in the exit status. -/
def failure (stdout message : String) : Output :=
  ⟨1, stdout, "error: " ++ message ++ "\n"⟩

/-- The reports in a format. -/
def ReportFormat.write : ReportFormat → List Report → String
  | .table, reports => Report.table reports
  | .json, reports => Report.json reports

/-- What a command prints once its configuration has been read. -/
def perform (inflector : Inflector) (options : Options) : Command → Output
  | .inflect form words _ =>
      let inflected (word : String) : String :=
        match form with
        | .singular => inflector.singularize word
        | .plural => inflector.pluralize word
      ⟨0, String.join (words.map fun word => inflected word ++ "\n"), ""⟩
  | .check names _ format =>
      let reports := names.map (Report.ofName inflector options)
      let stdout := ReportFormat.write format reports
      let rejected := (reports.filter Report.isRejected).length
      if rejected = 0 then ⟨0, stdout, ""⟩
      else
        failure stdout
          (toString rejected ++ " of " ++ toString reports.length ++ " field name(s) rejected")

/-- The file that a command names for its configuration. -/
def configPath : Command → Option String
  | .inflect _ _ config => config
  | .check _ config _ => config

/-- What a command prints, and its exit status. -/
def run (file : String → Contents) (command : Command) : Output :=
  match loadConfig file command.configPath with
  | .error message => failure "" message
  | .ok config =>
      match loadInflector config with
      | .error message => failure "" message
      | .ok inflector => command.perform inflector config.options

end Command

/-- The program as a function of its arguments and the files; no sense in the arguments is 2. -/
def runArguments (file : String → Contents) (arguments : List String) : Output :=
  match Command.parse? arguments with
  | some command => command.run file
  | none => ⟨2, "", "error: the arguments describe no command\n"⟩

end FieldSchema
