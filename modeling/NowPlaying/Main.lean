import NowPlaying.CommandLine.Run

/-!
# The program

Reads the files that a request names, writes the outcome, and ends with its exit code.
-/

open NowPlaying CommandLine

def systemText (code : UInt32) (details : String) : String :=
  details ++ " (os error " ++ toString code ++ ")"

/-- A path that leads nowhere, or through something that is no directory, or that is too long, is absent. -/
def fileOfError : IO.Error → File
  | .noFileOrDirectory _ code details => .absent (systemText code details)
  | .inappropriateType _ code details =>
    if code = 20 then .absent (systemText code details) else .unreadable (systemText code details)
  | .invalidArgument _ code details =>
    if code = 36 then .absent (systemText code details) else .unreadable (systemText code details)
  | .permissionDenied _ code details => .unreadable (systemText code details)
  | error => .unreadable (toString error)

def fileOfBytes (bytes : ByteArray) : File :=
  match String.fromUTF8? bytes with
  | some content => .text content
  | none => .unreadable "stream did not contain valid UTF-8"

def readPath (path : String) : IO File := do
  try
    return fileOfBytes (← IO.FS.readBinFile path)
  catch error => return fileOfError error

/-- The files that a request may read. -/
def pathsOf (request : Request) : List String :=
  let json :=
    match request.command with
    | .metadata source _ => source.json
    | .render source => source.json
    | _ => none
  request.configPath :: json.toList

def main (args : List String) : IO UInt32 := do
  let paths :=
    match Request.read args with
    | .ok request => pathsOf request
    | .error _ => []
  let found ← paths.mapM fun path => do return (path, ← readPath path)
  let outcome := outcome (fun path => (found.lookup path).getD (.absent "")) args
  IO.print outcome.output
  IO.eprint outcome.complaint
  return UInt32.ofNat outcome.exit
