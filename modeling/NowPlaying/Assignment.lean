import NowPlaying.Context
import NowPlaying.Number.Numeral
import NowPlaying.Text.Blank
import NowPlaying.Text.Quoted

/-!
# Assignments

`KEY=VALUE` on a command line. The key ends at the first equals sign and is trimmed; the value is everything behind it, untouched. A value that is an integer of 64 bits is one, any other that looks like a number and is read as a finite double is that double, and the rest is text.
-/

namespace NowPlaying

open Number

/-- A digit, a point, a sign or a mark of a power. -/
def isNumeralChar (c : Char) : Bool := isDigit c || ['.', '-', '+', 'e', 'E'].contains c

/-- Some digit, and nothing that no numeral is made of. -/
def looksNumeric (s : List Char) : Bool := s.any isDigit && s.all isNumeralChar

/-- The value that a text stands for. The words that are read as doubles are texts here. -/
def Value.infer (raw : String) : Value :=
  match readInt64? raw.toList with
  | some n => .integer n
  | none =>
    match Double.read? raw.toList with
    | some d => if looksNumeric raw.toList && d.isFinite then .float d else .text raw
    | none => .text raw

structure Assignment where
  key : String
  value : Value

namespace Assignment

inductive Problem where
  | noEqualsSign (argument : String)
  | emptyKey (argument : String)
  deriving DecidableEq, Repr

def Problem.message : Problem → String
  | .noEqualsSign argument => "expected KEY=VALUE, got " ++ Text.quoted argument
  | .emptyKey argument => "empty key in " ++ Text.quoted argument

def parse (argument : String) : Except Problem Assignment :=
  match argument.toList.span (· ≠ '=') with
  | (_, []) => .error (.noEqualsSign argument)
  | (key, _ :: value) =>
    if Text.trim key = [] then .error (.emptyKey argument)
    else .ok ⟨String.ofList (Text.trim key), Value.infer (String.ofList value)⟩

/-- A context with the assignments made in order. -/
def applyAll (assignments : List Assignment) (context : Context) : Context :=
  assignments.foldl (fun context assignment => context.insert assignment.key assignment.value) context

end Assignment

end NowPlaying
