import NowPlaying.CommandLine.Failure
import NowPlaying.CommandLine.Request
import NowPlaying.Config.Writer
import NowPlaying.Json.Reader
import NowPlaying.Query
import NowPlaying.Template.Description

/-!
# Running a request

A run goes through its stages in a fixed order: the configuration, the choice of a format, and then what the command needs. The first stage that fails ends the run, and nothing is printed then.
-/

namespace NowPlaying.CommandLine

/-! ### Files -/

/-- What is found under a path: nothing, something that cannot be read as text, or a text. -/
inductive File where
  | absent (cause : String)
  | unreadable (cause : String)
  | text (content : String)
  deriving DecidableEq, Repr

abbrev Files := String → File

/-! ### Configuration and format -/

/-- A configuration file that does not exist stands for the default configuration. -/
def loadConfig (files : Files) (path : String) : Except Failure Config :=
  match files path with
  | .absent _ => .ok Config.default
  | .unreadable cause => .error (.configUnreadable cause)
  | .text content =>
    match Config.read content with
    | .ok config => .ok config
    | .error .notToml => .error .configNotToml
    | .error (.invalid violation) => .error (.configInvalid violation)

/-- The format itself, or the format of a preset, or none. -/
def resolveFormat (format preset : Option String) (config : Config) : Except Failure (Option String) :=
  match format, preset with
  | some format, _ => .ok (some format)
  | none, some name =>
    match config.preset? name with
    | some format => .ok (some format)
    | none => .error (.unknownPreset name)
  | none, none => .ok none

/-! ### Entries -/

def kindOf : Json → String
  | .null => "null"
  | .bool _ => "a boolean"
  | .integer _ => "a number"
  | .float _ => "a number"
  | .text _ => "a string"
  | .list _ => "an array"
  | .object _ => "an object"

/-- The members of a JSON file that holds an object. -/
def contextOfJson (path content : String) : Except Failure Context :=
  match Json.read? content with
  | none => .error (.notJson path)
  | some (.object members) => .ok (Context.ofMembers members)
  | some json => .error (.notObject path (kindOf json))

def readJson (files : Files) (path : String) : Except Failure Context :=
  match files path with
  | .absent cause => .error (.jsonUnreadable path cause)
  | .unreadable cause => .error (.jsonUnreadable path cause)
  | .text content => contextOfJson path content

def buildContext (files : Files) (source : EntrySource) : Except Failure Context :=
  match source.json with
  | none => .ok (Assignment.applyAll source.assignments NameMap.empty)
  | some path => (readJson files path).map (Assignment.applyAll source.assignments)

/-! ### Commands -/

def orRejected {α : Type} : Except FormatError α → Except Failure α
  | .ok value => .ok value
  | .error error => .error (.rejected error)

def printLine (line : String) : String := line ++ "\n"

def runQuery (config : Config) (format : Option String) (query : Query) : Except Failure String := do
  let engine := Engine.withLimit config.limit
  let template ← match format with
    | none => .ok none
    | some format => (orRejected (engine.compile format)).map some
  let output ← orRejected (query.output engine template (AliasTable.configured config.aliases))
  .ok (printLine output)

def runRender (files : Files) (config : Config) (format : Option String) (source : EntrySource) :
    Except Failure String := do
  match format with
  | none => .error .nothingToRender
  | some format =>
    let context ← buildContext files source
    let output ← orRejected ((Engine.withLimit config.limit).expand format context)
    .ok (printLine output)

/-- The descriptions of the tokens, and the names that are read if there are any. -/
def listTemplate (registry : Registry) (template : Template) : String :=
  let names := template.names
  String.join (template.tokens.map fun token => printLine (token.describe registry))
    ++ if names.isEmpty then "" else printLine ("reads: " ++ ", ".intercalate names)

def runCheck (config : Config) (format : Option String) : Except Failure String :=
  match format with
  | none => .error .nothingToCheck
  | some format =>
    let engine := Engine.withLimit config.limit
    match engine.compile format with
    | .error error => .error (.checked format error)
    | .ok template => .ok (listTemplate engine.registry template)

def padRight (width : Nat) (s : String) : String :=
  s ++ String.ofList (List.replicate (width - s.length) ' ')

/-- Every helper on a line of its own, in the order into which the names are sorted. -/
def listHelpers (registry : Registry) : String :=
  String.join (registry.names.filterMap fun name => (registry.get? name).map fun helper =>
    printLine (padRight 10 name ++ " " ++ helper.description))

/-- Compiles the presets one after the other. -/
def checkPresets (config : Config) : Except Failure Unit :=
  config.presets.entries.forM fun (name, format) =>
    match (Engine.withLimit config.limit).compile format with
    | .error error => .error (.preset name error)
    | .ok _ => .ok ()

def runConfig (path : String) (config : Config) (written : Bool) : Except Failure String := do
  checkPresets config
  if written then .ok (printLine config.write)
  else .ok (printLine ("Configuration at '" ++ path ++ "' is valid."))

/-! ### The run -/

def runCommand (files : Files) (path : String) (config : Config) (format : Option String) :
    Command → Except Failure String
  | .status reported => runQuery config format (.status reported)
  | .volume level => runQuery config format (.volume level)
  | .position micros => runQuery config format (.position micros)
  | .metadata source keys => do
    let entries ← buildContext files source
    runQuery config format (.metadata entries keys)
  | .render source => runRender files config format source
  | .check own => runCheck config (own <|> format)
  | .helpers => .ok (listHelpers Registry.builtIn)
  | .config written => runConfig path config written

/-- What a request prints, or why it fails. -/
def run (files : Files) (request : Request) : Except Failure String := do
  let config ← loadConfig files request.configPath
  let format ← resolveFormat request.format request.preset config
  runCommand files request.configPath config format request.command

/-! ### Outcomes -/

/-- What a run leaves behind: an exit code and two texts. -/
structure Outcome where
  exit : Nat
  output : String
  complaint : String
  deriving DecidableEq, Repr

def Outcome.ofRun : Except Failure String → Outcome
  | .ok output => ⟨0, output, ""⟩
  | .error failure => ⟨1, "", failure.text⟩

/-- The outcome of a command line. Misuse has an exit code of its own. -/
def outcome (files : Files) (args : List String) : Outcome :=
  match Request.read args with
  | .error .misuse => ⟨2, "", ""⟩
  | .error .information => ⟨0, "", ""⟩
  | .ok request => .ofRun (run files request)

end NowPlaying.CommandLine
