import NowPlaying.Value

/-!
# Contexts

What a format is rendered against: values under exact names, each name once.
-/

namespace NowPlaying

abbrev Context := NameMap Value

namespace Context

/-- Every member of a JSON object under its own name. -/
def ofMembers (members : List (String × Json)) : Context :=
  members.foldl (fun context member => context.insert member.1 (Value.ofJson member.2)) NameMap.empty

/-- Puts a value under a name that is still free, and tells whether it was. -/
def insertIfAbsent (context : Context) (name : String) (value : Value) : Bool × Context :=
  if context.contains name then (false, context) else (true, context.insert name value)

end Context

end NowPlaying
