import NowPlaying.Config
import NowPlaying.Number.Digits
import NowPlaying.Toml.Writer

/-!
# Writing configurations

Four tables in a fixed order with a blank line between them, each entry on a line of its own. A limit that is not set is left out.
-/

namespace NowPlaying.Config

open Toml

def writePair (key value : List Char) : List Char := key ++ ' ' :: '=' :: ' ' :: value ++ ['\n']

def writeHeader (name : String) : List Char := '[' :: name.toList ++ [']', '\n']

def writeTexts (texts : NameMap String) : List Char :=
  texts.entries.flatMap fun (name, value) => writePair (writeKey name.toList) (writeText value.toList)

def writeLimit : Option Nat → List Char
  | none => []
  | some limit => writePair "max_length".toList (Number.digitsOf limit)

def writeChars (config : Config) : List Char :=
  writeHeader "format" ++ writeLimit config.limit
    ++ '\n' :: writeHeader "logging" ++ writePair "level".toList (writeText config.level.toList)
    ++ '\n' :: writeHeader "metadata.aliases" ++ writeTexts config.aliases
    ++ '\n' :: writeHeader "presets" ++ writeTexts config.presets

def write (config : Config) : String := String.ofList config.writeChars

end NowPlaying.Config
