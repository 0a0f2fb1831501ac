import NowPlaying.Text.Ranges

/-!
# Writing texts and keys in TOML

A text takes the first of these forms that it fits without escapes: double quotes, single quotes, three double quotes, three single quotes. A tab fits every form and is escaped between double quotes all the same. A text that fits none is escaped between double quotes, three of them if it has a line break. A key is bare when it can be, and otherwise stands between single marks.
-/

namespace NowPlaying.Toml

/-! ### What a text needs -/

/-- A control, other than the tab and the line feed, that only an escape can write. -/
def needsCode (c : Char) : Bool := (c.toNat < 0x20 && c ≠ '\t' && c ≠ '\n') || c.toNat = 0x7F

/-- The length of the longest run of a character, with `current` of them just before the text. -/
def longestRun (quote : Char) (current : Nat) : List Char → Nat
  | [] => current
  | c :: rest =>
    if c = quote then longestRun quote (current + 1) rest else max current (longestRun quote 0 rest)

/-! ### Escapes -/

/-- The last hexadecimal digits of a number. -/
def hexDigits : Nat → Nat → List Char
  | 0, _ => []
  | width + 1, n => hexDigits width (n / 16) ++ [(Nat.digitChar (n % 16)).toUpper]

/-- A character between double quotes. Between three of them a line feed may stand for itself. -/
def escapeChar (multiline : Bool) (c : Char) : List Char :=
  match c with
  | '\x08' => ['\\', 'b']
  | '\t' => ['\\', 't']
  | '\n' => if multiline then ['\n'] else ['\\', 'n']
  | '\x0c' => ['\\', 'f']
  | '\r' => ['\\', 'r']
  | '"' => ['\\', '"']
  | '\\' => ['\\', '\\']
  | c => if needsCode c then '\\' :: 'u' :: hexDigits 4 c.toNat else [c]

/-- A text between double quotes, where up to `allowed` quotes in a row stand for themselves. `quotes` of them stand just before the text. -/
def escapeBody (multiline : Bool) (allowed quotes : Nat) : List Char → List Char
  | [] => []
  | c :: rest =>
    if c = '"' then
      if quotes < allowed then '"' :: escapeBody multiline allowed (quotes + 1) rest
      else '\\' :: '"' :: escapeBody multiline allowed 0 rest
    else escapeChar multiline c ++ escapeBody multiline allowed 0 rest

/-! ### The four forms -/

inductive Quoting where
  | basic
  | literal
  | multilineBasic
  | multilineLiteral
  deriving DecidableEq, Repr

def Quoting.mark : Quoting → List Char
  | .basic => ['"']
  | .literal => ['\'']
  | .multilineBasic => ['"', '"', '"']
  | .multilineLiteral => ['\'', '\'', '\'']

/-- A text with line breaks begins on a line of its own. -/
def ownLine (s : List Char) : List Char := if '\n' ∈ s then ['\n'] else []

def Quoting.body (quoting : Quoting) (s : List Char) : List Char :=
  match quoting with
  | .basic => escapeBody false 0 0 s
  | .literal => s
  | .multilineBasic => ownLine s ++ escapeBody true 2 0 s
  | .multilineLiteral => ownLine s ++ s

def Quoting.write (quoting : Quoting) (s : List Char) : List Char :=
  quoting.mark ++ quoting.body s ++ quoting.mark

/-- Whether a text needs no escape in a form. -/
def Quoting.fits (quoting : Quoting) (s : List Char) : Bool :=
  !s.any needsCode &&
    match quoting with
    | .basic => s.all fun c => c ≠ '\\' && c ≠ '"' && c ≠ '\n'
    | .literal => s.all fun c => c ≠ '\'' && c ≠ '\n'
    | .multilineBasic => s.all (· ≠ '\\') && longestRun '"' 0 s ≤ 2
    | .multilineLiteral => longestRun '\'' 0 s ≤ 2

def quotingOf (s : List Char) : Quoting :=
  match [Quoting.basic, .literal, .multilineBasic, .multilineLiteral].find? (·.fits s) with
  | some quoting => quoting
  | none => if '\n' ∈ s then .multilineBasic else .basic

def writeText (s : List Char) : List Char := (quotingOf s).write s

/-! ### Keys -/

def isBareKey (s : List Char) : Bool :=
  !s.isEmpty && s.all fun c => c.isAlphanum || c = '-' || c = '_'

def keyQuoting (s : List Char) : Quoting :=
  match [Quoting.basic, .literal].find? (·.fits s) with
  | some quoting => quoting
  | none => .basic

def writeKey (s : List Char) : List Char := if isBareKey s then s else (keyQuoting s).write s

end NowPlaying.Toml
