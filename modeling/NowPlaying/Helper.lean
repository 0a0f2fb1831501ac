import NowPlaying.Context
import NowPlaying.Duration
import NowPlaying.Text.Case

/-!
# Helpers

A helper turns one value into text, or into nothing when it does not take values of that type. A registry keeps helpers under their own names; a helper registered later replaces an earlier one of its name.
-/

namespace NowPlaying

structure Helper where
  name : String
  description : String
  apply : Value → Option String

namespace Helper

def lowercase : Helper where
  name := "lc"
  description := "Lowercase the printed value"
  apply value := some (String.ofList (Text.lower value.display.toList))

def uppercase : Helper where
  name := "uc"
  description := "Uppercase the printed value"
  apply value := some (String.ofList (Text.upper value.display.toList))

def duration : Helper where
  name := "duration"
  description := "Format microseconds as H:MM:SS or M:SS"
  apply
    | .integer micros => some (Duration.format micros)
    | _ => none

end Helper

abbrev Registry := NameMap Helper

namespace Registry

def register (registry : Registry) (helper : Helper) : Registry := registry.insert helper.name helper

def builtIn : Registry :=
  [Helper.lowercase, Helper.uppercase, Helper.duration].foldl register NameMap.empty

end Registry

end NowPlaying
