import NowPlaying.Text.Blank

/-!
# Texts in TOML

A text stands between quotes of one of four kinds. Double quotes allow escapes, single quotes do not; three quotes on either side allow line breaks and the quote itself. Reading first finds the closing quotes and then decodes what stands between them.
-/

namespace NowPlaying.Toml

/-! ### What may stand for itself -/

/-- Neither a control other than the tab nor the delete character. -/
def isVisible (c : Char) : Bool := c = '\t' || (0x20 ≤ c.toNat && c.toNat ≠ 0x7F)

/-- A line feed, alone or behind a carriage return, at the start of a text: what follows it. -/
def behindNewline? : List Char → Option (List Char)
  | '\n' :: rest => some rest
  | '\r' :: '\n' :: rest => some rest
  | _ => none

/-- The first line break right behind three quotes does not count. -/
def dropFirstNewline (s : List Char) : List Char := (behindNewline? s).getD s

/-! ### Closing quotes -/

/-- The body up to a closing single quote mark, and the rest. -/
def splitLiteral : List Char → Option (List Char × List Char)
  | [] => none
  | c :: rest =>
    if c = '\'' then some ([], rest)
    else (splitLiteral rest).map fun (body, rest) => (c :: body, rest)

/-- The body up to a double quote that no backslash precedes. -/
def splitBasic (escaped : Bool) : List Char → Option (List Char × List Char)
  | [] => none
  | c :: rest =>
    if c = '"' && !escaped then some ([], rest)
    else (splitBasic (c = '\\' && !escaped) rest).map fun (body, rest) => (c :: body, rest)

/-- What follows three quotes at the start of a text: up to two quotes that still belong to the body, and the rest. -/
def closing? (quote : Char) (s : List Char) : Option (List Char × List Char) :=
  let quotes := s.takeWhile (· = quote)
  if 3 ≤ quotes.length then
    let extra := min (quotes.length - 3) 2
    some (List.replicate extra quote, s.drop (3 + extra))
  else none

/-- The body up to three quotes that no backslash precedes, where backslashes count. -/
def splitMultiline (quote : Char) (escapes escaped : Bool) : List Char → Option (List Char × List Char)
  | [] => none
  | c :: rest =>
    match if escaped then none else closing? quote (c :: rest) with
    | some found => some found
    | none =>
      (splitMultiline quote escapes (escapes && c = '\\' && !escaped) rest).map fun (body, rest) =>
        (c :: body, rest)

/-! ### Bodies -/

def hexDigit? (c : Char) : Option Nat :=
  if '0' ≤ c ∧ c ≤ '9' then some (c.toNat - '0'.toNat)
  else if 'a' ≤ c ∧ c ≤ 'f' then some (c.toNat - 'a'.toNat + 10)
  else if 'A' ≤ c ∧ c ≤ 'F' then some (c.toNat - 'A'.toNat + 10)
  else none

def scalar? (code : Nat) : Option Char := if code.isValidChar then some (Char.ofNat code) else none

/-- What a body is in the middle of. -/
inductive Pending where
  | nothing
  | escape
  /-- A character by its code, with some hexadecimal digits still to come. -/
  | code (digits value : Nat)
  /-- A carriage return that needs its line feed. -/
  | newline
  /-- A backslash at the end of a line: blanks and line breaks are dropped. -/
  | fold (broken : Bool)
  | foldNewline
  deriving DecidableEq, Repr

def simpleEscape? (c : Char) : Option Char :=
  match c with
  | 'b' => some '\x08'
  | 't' => some '\t'
  | 'n' => some '\n'
  | 'f' => some '\x0c'
  | 'r' => some '\r'
  | 'e' => some '\x1b'
  | '"' => some '"'
  | '\\' => some '\\'
  | _ => none

def codeLength? (c : Char) : Option Nat :=
  match c with
  | 'x' => some 2
  | 'u' => some 4
  | 'U' => some 8
  | _ => none

/-- A character that stands for itself or begins something. -/
def stepPlain? (multiline : Bool) (c : Char) : Option (List Char × Pending) :=
  if c = '\\' then some ([], .escape)
  else if isVisible c then some ([c], .nothing)
  else if multiline && c = '\n' then some ([c], .nothing)
  else if multiline && c = '\r' then some ([c], .newline)
  else none

def stepFold? (multiline broken : Bool) (c : Char) : Option (List Char × Pending) :=
  if c = ' ' ∨ c = '\t' then some ([], .fold broken)
  else if c = '\n' then some ([], .fold true)
  else if c = '\r' then some ([], .foldNewline)
  else if broken then stepPlain? multiline c
  else none

def stepEscape? (multiline : Bool) (c : Char) : Option (List Char × Pending) :=
  match simpleEscape? c with
  | some escaped => some ([escaped], .nothing)
  | none =>
    match codeLength? c with
    | some digits => some ([], .code digits 0)
    | none => if multiline then stepFold? multiline false c else none

def stepCode? (digits value : Nat) (c : Char) : Option (List Char × Pending) := do
  let digit ← hexDigit? c
  let value := 16 * value + digit
  if digits ≤ 1 then
    let c ← scalar? value
    some ([c], .nothing)
  else some ([], .code (digits - 1) value)

/-- One character of a body: what it adds, and what is pending behind it. -/
def step? (multiline : Bool) (pending : Pending) (c : Char) : Option (List Char × Pending) :=
  match pending with
  | .nothing => stepPlain? multiline c
  | .escape => stepEscape? multiline c
  | .code digits value => stepCode? digits value c
  | .newline => if c = '\n' then some ([c], .nothing) else none
  | .fold broken => stepFold? multiline broken c
  | .foldNewline => if c = '\n' then some ([], .fold true) else none

def decodeFrom? (multiline : Bool) (pending : Pending) : List Char → Option (List Char)
  | [] => if pending = .nothing ∨ pending = .fold true then some [] else none
  | c :: rest => do
    let (added, pending) ← step? multiline pending c
    let more ← decodeFrom? multiline pending rest
    some (added ++ more)

def decodeBasic? (body : List Char) : Option (List Char) := decodeFrom? false .nothing body

def decodeMultilineBasic? (body : List Char) : Option (List Char) :=
  decodeFrom? true .nothing (dropFirstNewline body)

def decodeLiteral? (body : List Char) : Option (List Char) := if body.all isVisible then some body else none

/-- Every carriage return has its line feed, and nothing else is hidden. -/
def isMultiline : List Char → Bool
  | [] => true
  | '\r' :: '\n' :: rest => isMultiline rest
  | c :: rest => (isVisible c || c = '\n') && isMultiline rest

def decodeMultilineLiteral? (body : List Char) : Option (List Char) :=
  let body := dropFirstNewline body
  if isMultiline body then some body else none

/-! ### Whole texts -/

def decodeWith? (decode : List Char → Option (List Char)) (found : Option (List Char × List Char)) :
    Option (String × List Char) := do
  let (body, rest) ← found
  let chars ← decode body
  some (String.ofList chars, rest)

/-- A text between single marks of either kind. -/
def readLineText? : List Char → Option (String × List Char)
  | '"' :: rest => decodeWith? decodeBasic? (splitBasic false rest)
  | '\'' :: rest => decodeWith? decodeLiteral? (splitLiteral rest)
  | _ => none

/-- A text of any kind. -/
def readText? (s : List Char) : Option (String × List Char) :=
  match s with
  | '"' :: '"' :: '"' :: rest => decodeWith? decodeMultilineBasic? (splitMultiline '"' true false rest)
  | '\'' :: '\'' :: '\'' :: rest =>
    decodeWith? decodeMultilineLiteral? (splitMultiline '\'' false false rest)
  | s => readLineText? s

end NowPlaying.Toml
