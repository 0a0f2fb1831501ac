import NowPlaying.Assignment
import NowPlaying.CommandLine.Arguments

/-!
# Requests

What a command line asks for. Options for the configuration come before the command; a format, a preset and the verbosity may come before or after it, and what comes after wins. A format and a preset exclude each other where both stand on the same side.
-/

namespace NowPlaying.CommandLine

/-- Where entries come from: perhaps a JSON file, and then assignments. -/
structure EntrySource where
  json : Option String
  assignments : List Assignment

inductive Command where
  | status (reported : Option String)
  | volume (level : Double)
  | position (micros : Int64)
  | metadata (entries : EntrySource) (keys : List String)
  | render (entries : EntrySource)
  | check (format : Option String)
  | helpers
  | config (written : Bool)

structure Request where
  configPath : String
  format : Option String
  preset : Option String
  command : Command

/-! ### Options -/

def anyValue (_ : String) : Bool := true

/-- A path is never empty. -/
def isPath (value : String) : Bool := !value.isEmpty

def isAssignment (value : String) : Bool := (Assignment.parse value).toBool

def sharedFlags : List Flag := [
  ⟨"verbose", some 'v', .count, anyValue⟩, ⟨"format", some 'f', .value, anyValue⟩,
  ⟨"preset", some 'p', .value, anyValue⟩, ⟨"help", some 'h', .information, anyValue⟩]

def topFlags : List Flag := [⟨"config", some 'c', .value, isPath⟩, ⟨"version", some 'V', .information, anyValue⟩]

def entryFlags : List Flag := [⟨"json", none, .value, isPath⟩, ⟨"set", none, .values, isAssignment⟩]

def showFlag : Flag := ⟨"show", none, .switch, anyValue⟩

def defaultPath : String := "trackfmt.toml"

/-! ### Plain words -/

def noWord (_ : Nat) (_ : String) : Bool := false

def anyWords (_ : Nat) (_ : String) : Bool := true

/-- A single word of some kind. -/
def oneWord (accepts : String → Bool) (before : Nat) (word : String) : Bool := before = 0 && accepts word

def readLevel? (word : String) : Option Double := Double.read? word.toList

def readMicros? (word : String) : Option Int64 := Number.readInt64? word.toList

def topLevel : Level := ⟨topFlags ++ sharedFlags, true, noWord, false⟩

/-! ### Commands -/

/-- A command: its own options, its plain words, whether the first may be a negative number, and how it is put together. -/
structure Form where
  name : String
  flags : List Flag
  acceptsWord : Nat → String → Bool
  takesNegative : Bool
  build : Found → Option Command

def Form.level (form : Form) : Level := ⟨form.flags ++ sharedFlags, false, form.acceptsWord, form.takesNegative⟩

def entrySource? (found : Found) : Option EntrySource := do
  let assignments ← (found.all "set").mapM fun argument => (Assignment.parse argument).toOption
  some ⟨found.value? "json", assignments⟩

def forms : List Form := [
  ⟨"status", [], oneWord anyValue, false, fun found => some (.status found.words.head?)⟩,
  ⟨"volume", [], oneWord fun word => (readLevel? word).isSome, false, fun found =>
    (found.words.head?.bind readLevel?).map .volume⟩,
  ⟨"position", [], oneWord fun word => (readMicros? word).isSome, true, fun found =>
    (found.words.head?.bind readMicros?).map .position⟩,
  ⟨"metadata", entryFlags, anyWords, false, fun found =>
    (entrySource? found).map fun entries => .metadata entries found.words⟩,
  ⟨"render", entryFlags, noWord, false, fun found => (entrySource? found).map .render⟩,
  ⟨"check", [], oneWord anyValue, false, fun found => some (.check found.words.head?)⟩,
  ⟨"helpers", [], noWord, false, fun _ => some .helpers⟩,
  ⟨"config", [showFlag], noWord, false, fun found => some (.config (found.has "show"))⟩]

def orMisuse {α : Type} : Option α → Except Stop α
  | some value => .ok value
  | none => .error .misuse

/-- A format and a preset exclude each other where both stand on one level. -/
def exclusive (found : Found) : Except Stop Unit :=
  if found.has "format" && found.has "preset" then .error .misuse else .ok ()

/-- The word that asks for information instead of a command. -/
def helpWord : String := "help"

/-- Information is given about the program or about one command. -/
def readHelp : List String → Stop
  | [] => .information
  | [name] => if name = helpWord ∨ (forms.any fun form => form.name = name) then .information else .misuse
  | _ => .misuse

/-- The command that a word names, with the options and words behind it. -/
def readCommand (name : String) (args : List String) : Except Stop (Found × Command) := do
  if name = helpWord then .error (readHelp args)
  let form ← orMisuse (forms.find? (·.name = name))
  let (found, _) ← form.level.read Found.nothing none args
  exclusive found
  let command ← orMisuse (form.build found)
  .ok (found, command)

def Request.read (args : List String) : Except Stop Request := do
  match ← topLevel.read Found.nothing none args with
  | (_, []) => .error .misuse
  | (top, name :: rest) =>
    let (own, command) ← readCommand name rest
    exclusive top
    .ok ⟨(top.value? "config").getD defaultPath, own.value? "format" <|> top.value? "format",
      own.value? "preset" <|> top.value? "preset", command⟩

end NowPlaying.CommandLine
