import NowPlaying.Context

/-!
# Aliases

An alias gives the value under one name a second, shorter name. A table is applied entry by entry: an alias is added when its own name is still free and its source is there by then, so an entry may build on an earlier one, and nothing that was there is replaced.
-/

namespace NowPlaying

structure Alias where
  name : String
  source : String
  deriving DecidableEq, Repr

abbrev AliasTable := List Alias

namespace AliasTable

def builtIn : AliasTable := [⟨"artist", "xesam:artist"⟩, ⟨"album", "xesam:album"⟩, ⟨"title", "xesam:title"⟩]

/-- The built-in aliases and then the configured ones, in order of name. -/
def configured (aliases : NameMap String) : AliasTable :=
  builtIn ++ aliases.entries.map fun (name, source) => ⟨name, source⟩

def push (table : AliasTable) (name source : String) : AliasTable := table ++ [⟨name, source⟩]

/-- The source of the first entry for a name. -/
def sourceOf? (table : AliasTable) (name : String) : Option String :=
  (table.find? fun entry => entry.name = name).map (·.source)

end AliasTable

def Alias.apply (context : Context) (entry : Alias) : Context :=
  if context.contains entry.name then context
  else
    match context.get? entry.source with
    | some value => context.insert entry.name value
    | none => context

def AliasTable.apply (table : AliasTable) (context : Context) : Context := table.foldl Alias.apply context

/-- Raw metadata with the built-in aliases. -/
def Context.ofMetadata (raw : Context) : Context := AliasTable.builtIn.apply raw

end NowPlaying
