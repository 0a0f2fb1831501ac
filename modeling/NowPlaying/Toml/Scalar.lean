import NowPlaying.Number.Numeral
import NowPlaying.Toml
import NowPlaying.Toml.Date
import NowPlaying.Toml.Text

/-!
# Scalars in TOML

Values that stand without quotes: the two truth values, integers in four bases, floating-point numbers, and dates. A word has to have the form of one of them. A numeral in form whose digits do not fit its base, that exceeds 128 bits or that is infinite as a double, is kept as numberless: it may stand where nobody asks for its number.
-/

namespace NowPlaying.Toml

open Number

/-! ### Underscores -/

/-- Every underscore stands between two digits. `before` says whether a digit stands in front of the first character. -/
def underscoresFit (digit : Char → Bool) (before : Bool) : List Char → Bool
  | [] => true
  | c :: rest =>
    if c = '_' then before && rest.head?.any digit && underscoresFit digit false rest
    else underscoresFit digit (digit c) rest

/-- As `underscoresFit`, for what stands behind a sign or the letter of a base: neither counts as a digit. -/
def wordFits (digit : Char → Bool) (word : List Char) : Bool := underscoresFit digit false word

def withoutUnderscores (s : List Char) : List Char := s.filter (· ≠ '_')

def isHexDigit (c : Char) : Bool := (hexDigit? c).isSome

/-! ### Integers -/

def fits128 (n : Int) : Bool := -(Nat.pow 2 127 : Nat) ≤ n && n < (Nat.pow 2 128 : Nat)

def ofInt (n : Int) : Toml := if fits128 n then .integer n else .numberless

def digitIn? (base : Nat) (c : Char) : Option Nat :=
  match hexDigit? c with
  | some digit => if digit < base then some digit else none
  | none => none

/-- The number with some digits in a base, the highest first. -/
def valueIn (base : Nat) (digits : List Nat) : Nat := digits.foldl (base * · + ·) 0

/-- The base that a letter behind a zero selects. -/
def baseOf? (c : Char) : Option Nat :=
  match c with
  | 'x' => some 16
  | 'o' => some 8
  | 'b' => some 2
  | _ => none

/-- An integer behind the letter of its base, perhaps without any digits. -/
def readBase? (base : Nat) (s : List Char) : Option Toml :=
  if !wordFits isHexDigit s then none
  else
    ((withoutUnderscores s).mapM (digitIn? base)).map fun digits =>
      if digits.isEmpty then .numberless else ofInt (valueIn base digits)

/-- A decimal integer. Letters get past the underscores, but then there is no number. -/
def readInteger? (sign s : List Char) : Option Toml :=
  if (1 < s.length && s.head? = some '0') || !wordFits isHexDigit s then none
  else
    let digits := withoutUnderscores s
    if digits.all isDigit then some (ofInt (Number.signed (sign = ['-']) (ofDigits digits)))
    else some .numberless

/-! ### Floating-point numbers -/

/-- Digits without a superfluous zero in front. -/
def isWhole (digits : List Char) : Bool :=
  !digits.isEmpty && (digits.length = 1 || digits.head? ≠ some '0')

/-- A numeral with a whole part, and digits on both sides of a point if there is one. -/
def isFloat (s : List Char) : Bool :=
  let (whole, s) := takeDigits s
  isWhole whole &&
    match s with
    | '.' :: s =>
      let (fraction, s) := takeDigits s
      !fraction.isEmpty && (Numeral.readPower? s).isSome
    | s => (Numeral.readPower? s).isSome

def readFloat? (sign s : List Char) : Option Toml :=
  if !wordFits isDigit s || !isFloat (withoutUnderscores s) then none
  else
    (Numeral.read? (sign ++ withoutUnderscores s)).map fun numeral =>
      if numeral.toDouble.isFinite then .float numeral.toDouble else .numberless

/-! ### Words -/

def isFloatMark (c : Char) : Bool := c = '.' || c = 'e' || c = 'E'

/-- A decimal number behind its sign, if it has one. -/
def readNumber? (sign s : List Char) : Option Toml :=
  if s = "inf".toList then some (.float (.infinite (sign = ['-'])))
  else if s = "nan".toList then some (.float .nan)
  else
    match takeDigits s with
    | (digits, []) => if digits.isEmpty then none else readInteger? sign s
    | (_, c :: rest) =>
      if (c :: rest).any isFloatMark then readFloat? sign s
      else if c = '_' then readInteger? sign s
      else none

/-- A word that digits and then a dash or a colon begin has to be a date. -/
def looksDated (s : List Char) : Bool :=
  let (digits, rest) := takeDigits s
  !digits.isEmpty && (rest.head? = some '-' || rest.head? = some ':')

def readUnsigned? (s : List Char) : Option Toml :=
  if looksDated s then (readDate? s).map fun normal => date (String.ofList normal)
  else
    match s with
    | '0' :: c :: digits =>
      match baseOf? c with
      | some base => readBase? base digits
      | none => readNumber? [] s
    | s => readNumber? [] s

def decodeScalar? (s : List Char) : Option Toml :=
  if s = "true".toList then some (.bool true)
  else if s = "false".toList then some (.bool false)
  else
    match s with
    | '+' :: rest => readNumber? ['+'] rest
    | '-' :: rest => readNumber? ['-'] rest
    | s => readUnsigned? s

/-- A word goes on up to a blank, a bracket, or another mark between values. -/
def isScalarChar (c : Char) : Bool := !"=,[]\x7b\x7d \t#\r\n".toList.contains c

/-- A date may be followed by a space and a time. -/
def takeScalar (s : List Char) : List Char × List Char :=
  match s.span isScalarChar with
  | (day, ' ' :: c :: rest) =>
    if isDigit c && (readDay? day).any fun (_, behind) => behind.isEmpty then
      let (time, rest) := (c :: rest).span isScalarChar
      (day ++ ' ' :: time, rest)
    else (day, ' ' :: c :: rest)
  | found => found

def readScalar? (s : List Char) : Option (Toml × List Char) :=
  let (word, rest) := takeScalar s
  (decodeScalar? word).map (·, rest)

end NowPlaying.Toml
