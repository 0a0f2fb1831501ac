/-!
# What can be wrong with a format

A format is malformed at a byte position for one of ten reasons, or calls a helper that does not exist, or is longer than allowed.
-/

namespace NowPlaying

/-- Why a format is malformed. -/
inductive Fault where
  | nestedOpener
  | emptyExpression
  | closerInCall
  | strayParen
  | missingHelper
  | strayEndParen
  | missingArgument
  | textAfterCall
  | unclosedDirective
  | unclosedCall
  deriving DecidableEq, Repr

def Fault.message : Fault → String
  | .nestedOpener => "unexpected token: \"\x7b\x7b\""
  | .emptyExpression => "got empty template expression"
  | .closerInCall =>
    "unexpected token: \"\x7d\x7d\" (unmatched opener \"(\", expected closing parens \")\")"
  | .strayParen => "unexpected token: \"(\""
  | .missingHelper => "expected a function name to call"
  | .strayEndParen => "unexpected token: \")\""
  | .missingArgument => "expected a function parameter"
  | .textAfterCall => "got unexpected input after closing parens"
  | .unclosedDirective => "unmatched opener \"\x7b\x7b\" (expected a matching \"\x7d\x7d\")"
  | .unclosedCall => "unmatched opener \"(\" (expected a matching \")\")"

/-- A fault and the byte position that it is reported at. -/
structure Malformed where
  position : Nat
  fault : Fault
  deriving DecidableEq, Repr

inductive FormatError where
  | malformed (what : Malformed)
  | unknownHelper (name : String)
  | tooLong (length limit : Nat)
  deriving DecidableEq, Repr

namespace FormatError

def detail : FormatError → String
  | .malformed what => what.fault.message ++ " (position " ++ toString what.position ++ ")"
  | .unknownHelper name => "unknown template function: " ++ name
  | .tooLong length limit =>
    "the maximum format string length is " ++ toString limit ++ " (got " ++ toString length ++ ")"

def message (error : FormatError) : String := "[format error] " ++ error.detail

end FormatError

end NowPlaying
