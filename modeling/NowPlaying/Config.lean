import NowPlaying.NameMap
import NowPlaying.Text.Blank
import NowPlaying.Text.Quoted

/-!
# Configurations

A configuration limits the length of formats, sets the level of logging, adds aliases for metadata, and names formats as presets. It is valid when the limit is not zero, the level is known, aliases and presets have names and contents, and no preset is longer than the limit. The first violation is reported: limit, level, aliases in order of name, presets in order of name.
-/

namespace NowPlaying

structure Config where
  limit : Option Nat
  level : String
  aliases : NameMap String
  presets : NameMap String
  deriving DecidableEq

namespace Config

def default : Config := ⟨none, "info", NameMap.empty, NameMap.empty⟩

def preset? (config : Config) (name : String) : Option String := config.presets.get? name

/-! ### Validation -/

def levels : List String := ["trace", "debug", "info", "warn", "error"]

/-- A rule that a configuration breaks. -/
inductive Violation where
  | zeroLimit
  | unknownLevel (level : String)
  | namelessAlias
  | emptyAlias (name : String)
  | namelessPreset
  | emptyPreset (name : String)
  | longPreset (name : String) (length limit : Nat)
  deriving DecidableEq, Repr

def Violation.message : Violation → String
  | .zeroLimit => "format.max_length must be non-zero when set"
  | .unknownLevel level =>
    "logging.level must be one of " ++ Text.quotedList levels ++ ", got " ++ Text.quoted level
  | .namelessAlias => "metadata.aliases keys must not be empty"
  | .emptyAlias name => "metadata.aliases." ++ Text.quoted name ++ " must name a metadata key"
  | .namelessPreset => "presets keys must not be empty"
  | .emptyPreset name => "presets." ++ Text.quoted name ++ " must not be empty"
  | .longPreset name length limit =>
    "presets." ++ Text.quoted name ++ " is " ++ toString length ++ " bytes, over format.max_length ("
      ++ toString limit ++ ")"

def isBlankText (s : String) : Bool := s.toList.all Text.isBlank

def limitViolation? (limit : Option Nat) : Option Violation :=
  if limit = some 0 then some .zeroLimit else none

def levelViolation? (level : String) : Option Violation :=
  if level ∈ levels then none else some (.unknownLevel level)

def aliasViolation? (name source : String) : Option Violation :=
  if isBlankText name then some .namelessAlias
  else if isBlankText source then some (.emptyAlias name)
  else none

def lengthViolation? (limit : Option Nat) (name format : String) : Option Violation :=
  match limit with
  | some limit =>
    if limit < format.utf8ByteSize then some (.longPreset name format.utf8ByteSize limit) else none
  | none => none

def presetViolation? (limit : Option Nat) (name format : String) : Option Violation :=
  if isBlankText name then some .namelessPreset
  else if format.isEmpty then some (.emptyPreset name)
  else lengthViolation? limit name format

def violation? (config : Config) : Option Violation :=
  limitViolation? config.limit
    <|> levelViolation? config.level
    <|> config.aliases.entries.findSome? (fun (name, source) => aliasViolation? name source)
    <|> config.presets.entries.findSome? (fun (name, format) => presetViolation? config.limit name format)

end Config

end NowPlaying
