import NowPlaying.Config.Decode
import NowPlaying.Report

/-!
# Failures

Why a run of the command line fails. Every failure has one message; some go on with the cause that the system gave, and a malformed format that was to be checked is shown first.
-/

namespace NowPlaying.CommandLine

inductive Failure where
  | configUnreadable (cause : String)
  | configNotToml
  | configInvalid (violation : Config.Violation)
  | unknownPreset (name : String)
  | jsonUnreadable (path cause : String)
  | notJson (path : String)
  | notObject (path : String) (found : String)
  | nothingToRender
  | nothingToCheck
  | rejected (error : FormatError)
  | checked (format : String) (error : FormatError)
  | preset (name : String) (error : FormatError)

namespace Failure

def message : Failure → String
  | .configUnreadable cause => "failed to read config file: " ++ cause
  | .configNotToml => "failed to parse TOML"
  | .configInvalid violation => "validation error: " ++ violation.message
  | .unknownPreset name => "unknown preset " ++ Text.quoted name
  | .jsonUnreadable path _ => "failed to read " ++ path
  | .notJson path => "failed to parse JSON in " ++ path
  | .notObject path found => path ++ " must hold a JSON object, found " ++ found
  | .nothingToRender => "render needs --format or --preset"
  | .nothingToCheck => "check needs a FORMAT, --format or --preset"
  | .rejected error => error.message
  | .checked _ error => error.message
  | .preset name error => "preset " ++ Text.quoted name ++ ": " ++ error.message

def cause? : Failure → Option String
  | .configUnreadable cause => some cause
  | .jsonUnreadable _ cause => some cause
  | _ => none

/-- The drawing in front of the message. -/
def drawing? : Failure → Option String
  | .checked format error => Report.ofError? format error
  | _ => none

/-- Whether the message ends its line. The details of a text that cannot be read are not told, and neither is the end of the line that would hold them. -/
def endsLine : Failure → Bool
  | .configNotToml => false
  | .notJson _ => false
  | _ => true

/-- Everything that is written about a failure. -/
def text (failure : Failure) : String :=
  (failure.drawing?.map (· ++ "\n")).getD "" ++ "Error: " ++ failure.message
    ++ (failure.cause?.map ("\n\nCaused by:\n    " ++ ·)).getD ""
    ++ if failure.endsLine then "\n" else ""

end Failure

end NowPlaying.CommandLine
