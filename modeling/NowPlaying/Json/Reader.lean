import NowPlaying.Json.Numeral

/-!
# Reading JSON text

A text is one value with blanks around it: spaces, tabs and line ends. At most 127 lists and objects are open at a time. A surrogate written by its code has to come with its partner.
-/

namespace NowPlaying

namespace Json

def isBlank (c : Char) : Bool := c = ' ' || c = '\t' || c = '\n' || c = '\r'

def skipBlank (s : List Char) : List Char := s.dropWhile isBlank

/-! ### Texts -/

/-- One step of a text: a character, or a UTF-16 unit written by its code. -/
inductive TextUnit where
  | char (c : Char)
  | code (unit : Nat)

def hexDigit? (c : Char) : Option Nat :=
  if '0' ≤ c ∧ c ≤ '9' then some (c.toNat - '0'.toNat)
  else if 'a' ≤ c ∧ c ≤ 'f' then some (c.toNat - 'a'.toNat + 10)
  else if 'A' ≤ c ∧ c ≤ 'F' then some (c.toNat - 'A'.toNat + 10)
  else none

def hexValue? (digits : List Char) : Option Nat :=
  digits.foldlM (fun n c => (hexDigit? c).map (16 * n + ·)) 0

def escape? (c : Char) : Option Char :=
  match c with
  | '"' => some '"'
  | '\\' => some '\\'
  | '/' => some '/'
  | 'b' => some '\x08'
  | 'f' => some '\x0c'
  | 'n' => some '\n'
  | 'r' => some '\r'
  | 't' => some '\t'
  | _ => none

/-- The units up to the closing quote, and what follows it. -/
def readUnits? : List Char → Option (List TextUnit × List Char)
  | [] => none
  | '"' :: rest => some ([], rest)
  | '\\' :: 'u' :: a :: b :: c :: d :: rest => do
    let unit ← hexValue? [a, b, c, d]
    let (units, rest) ← readUnits? rest
    some (.code unit :: units, rest)
  | '\\' :: c :: rest => do
    let c ← escape? c
    let (units, rest) ← readUnits? rest
    some (.char c :: units, rest)
  | c :: rest => do
    if c.toNat < 0x20 || c = '\\' then none
    let (units, rest) ← readUnits? rest
    some (.char c :: units, rest)

def isLeading (unit : Nat) : Bool := 0xD800 ≤ unit && unit < 0xDC00

def isTrailing (unit : Nat) : Bool := 0xDC00 ≤ unit && unit < 0xE000

def joinUnits? : List TextUnit → Option (List Char)
  | [] => some []
  | .code high :: .code low :: rest =>
    if isLeading high then
      if isTrailing low then
        (joinUnits? rest).map (Char.ofNat (0x10000 + (high - 0xD800) * 0x400 + (low - 0xDC00)) :: ·)
      else none
    else if isTrailing high then none
    else (joinUnits? (.code low :: rest)).map (Char.ofNat high :: ·)
  | .code unit :: rest =>
    if isLeading unit || isTrailing unit then none else (joinUnits? rest).map (Char.ofNat unit :: ·)
  | .char c :: rest => (joinUnits? rest).map (c :: ·)

/-- A text from just behind its opening quote. -/
def readText? (s : List Char) : Option (String × List Char) := do
  let (units, rest) ← readUnits? s
  let chars ← joinUnits? units
  some (String.ofList chars, rest)

/-! ### Values -/

/-- What follows a word at the start of a text. -/
def behind? : List Char → List Char → Option (List Char)
  | [], rest => some rest
  | _ :: _, [] => none
  | w :: word, c :: rest => if w = c then behind? word rest else none

def readWord? (s : List Char) : Option (Json × List Char) :=
  [("null", null), ("true", bool true), ("false", bool false)].findSome? fun (word, json) =>
    (behind? word.toList s).map (json, ·)

def readScalar? (s : List Char) : Option (Json × List Char) :=
  match s with
  | '"' :: rest => (readText? rest).map fun (value, rest) => (text value, rest)
  | s => readWord? s <|> readNumber? s

/-- Items with commas between them, up to the closing bracket. The first argument bounds their number. -/
def readItems? {α : Type} (item : List Char → Option (α × List Char)) (close : Char) :
    Nat → List Char → Option (List α × List Char)
  | 0, _ => none
  | bound + 1, s => do
    let (first, s) ← item (skipBlank s)
    match skipBlank s with
    | c :: s =>
      if c = ',' then
        let (more, s) ← readItems? item close bound s
        some (first :: more, s)
      else if c = close then some ([first], s)
      else none
    | [] => none

/-- What stands between two brackets, from just behind the opening one: nothing or some items. -/
def readBracket? {α : Type} (item : List Char → Option (α × List Char)) (close : Char)
    (s : List Char) : Option (List α × List Char) :=
  match skipBlank s with
  | c :: rest => if c = close then some ([], rest) else readItems? item close s.length s
  | [] => none

def readMember? (value : List Char → Option (Json × List Char)) (s : List Char) :
    Option ((String × Json) × List Char) :=
  match s with
  | '"' :: s => do
    let (name, s) ← readText? s
    match skipBlank s with
    | ':' :: s =>
      let (json, s) ← value (skipBlank s)
      some ((name, json), s)
    | _ => none
  | _ => none

/-- A value with at most `depth` lists and objects open at a time. -/
def readValue? : Nat → List Char → Option (Json × List Char)
  | 0, s => readScalar? s
  | depth + 1, '[' :: s => do
    let (items, s) ← readBracket? (readValue? depth) ']' s
    some (list items, s)
  | depth + 1, '{' :: s => do
    let (members, s) ← readBracket? (readMember? (readValue? depth)) '}' s
    some (object (gather members), s)
  | _ + 1, s => readScalar? s

def maxDepth : Nat := 127

def read? (s : String) : Option Json := do
  let (json, rest) ← readValue? maxDepth (skipBlank s.toList)
  if (skipBlank rest).isEmpty then some json else none

end Json

end NowPlaying
