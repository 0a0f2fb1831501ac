import NowPlaying.Alias
import NowPlaying.Template

/-!
# Queries

A query holds what a player reported: a status, a volume, a position or a map of metadata. Each has a context for templates, and a default output for when there is no template.
-/

namespace NowPlaying

open Number

inductive Query where
  | status (reported : Option String)
  | volume (level : Double)
  | position (micros : Int64)
  | metadata (entries : Context) (keys : List String)

namespace Query

def name : Query → String
  | .status _ => "status"
  | .volume _ => "volume"
  | .position _ => "position"
  | .metadata .. => "metadata"

/-- A single value under the name of the query, or metadata with its aliases. -/
def context (aliases : AliasTable) : Query → Context
  | .status none => NameMap.empty
  | .status (some reported) => NameMap.empty.insert "status" (.text reported)
  | .volume level => NameMap.empty.insert "volume" (.float level)
  | .position micros => NameMap.empty.insert "position" (.integer micros)
  | .metadata entries _ => aliases.apply entries

def unavailable : String := "Not available"

/-- The places that a volume and a position are written with. -/
def places : Nat := 6

def inSeconds (micros : Int64) : Double := (Double.ofInt micros.toInt).div (Double.ofNat 1000000)

def joinLines (lines : List String) : String := "\n".intercalate lines

/-- Every name with its value, one a line and in the order into which the names are sorted. Aliases are no entries of their own. -/
def listing (entries : Context) : String :=
  joinLines (entries.names.filterMap fun name => (entries.get? name).map fun value => name ++ ": " ++ value.display)

/-- The values under some names, one a line. Names without a value are skipped. -/
def selection (context : Context) (keys : List String) : String :=
  joinLines (keys.filterMap fun key => (context.get? key).map Value.display)

def defaultOutput (aliases : AliasTable) : Query → String
  | .status reported => reported.getD unavailable
  | .volume level => String.ofList (level.writeFixed places)
  | .position micros => String.ofList ((inSeconds micros).writeFixed places)
  | .metadata entries [] => listing entries
  | .metadata entries keys => selection (aliases.apply entries) keys

def output (engine : Engine) (template : Option Template) (aliases : AliasTable) (query : Query) :
    Except FormatError String :=
  match template with
  | some template => engine.render template (query.context aliases)
  | none => .ok (query.defaultOutput aliases)

end Query

end NowPlaying
