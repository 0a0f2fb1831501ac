import NowPlaying.Toml.Scalar

/-!
# Reading TOML documents

A document is read line by line: a header, a key with its value, or nothing, and then perhaps a comment. Values in brackets and braces may run over several lines and end with a comma, and in braces an equals sign may have lines of its own. At most 80 brackets and braces are open at a time, and a key has at most 80 names.
-/

namespace NowPlaying.Toml

/-! ### Blanks and comments -/

def isSpace (c : Char) : Bool := c = ' ' || c = '\t'

def skipSpace (s : List Char) : List Char := s.dropWhile isSpace

/-- The text from the end of a comment on. -/
def skipComment? : List Char → Option (List Char)
  | [] => some []
  | '\n' :: rest => some ('\n' :: rest)
  | '\r' :: '\n' :: rest => some ('\r' :: '\n' :: rest)
  | c :: rest => if isVisible c then skipComment? rest else none

/-- Nothing more on this line: the text from the line break on. -/
def skipToLineEnd? (s : List Char) : Option (List Char) :=
  match skipSpace s with
  | '#' :: rest => skipComment? rest
  | rest => some rest

/-- Blanks, line breaks and comments, in a comment or not. -/
def skipTrivia? (inComment : Bool) : List Char → Option (List Char)
  | [] => some []
  | '\n' :: rest => skipTrivia? false rest
  | '\r' :: '\n' :: rest => skipTrivia? false rest
  | c :: rest =>
    if inComment then if isVisible c then skipTrivia? true rest else none
    else if isSpace c then skipTrivia? false rest
    else if c = '#' then skipTrivia? true rest
    else some (c :: rest)

/-! ### Keys -/

def isBare (c : Char) : Bool := c.isAlphanum || c = '-' || c = '_'

def readName? (s : List Char) : Option (String × List Char) :=
  match s.span isBare with
  | ([], rest) => readLineText? rest
  | (name, rest) => some (String.ofList name, rest)

/-- Names with dots between them. The first argument bounds their number. -/
def readKeyWithin? : Nat → List Char → Option (Key × List Char)
  | 0, _ => none
  | bound + 1, s => do
    let (name, s) ← readName? (skipSpace s)
    match skipSpace s with
    | '.' :: s =>
      let (key, s) ← readKeyWithin? bound s
      some (⟨name :: key.front, key.last⟩, s)
    | s => some (⟨[], name⟩, s)

/-- The number of names in a key, and of brackets and braces that are open at a time. -/
def maxDepth : Nat := 80

/-- A key, and the text behind the blanks that follow it. -/
def readKey? (s : List Char) : Option (Key × List Char) := readKeyWithin? maxDepth s

/-! ### Values -/

/-- Items with commas between them, up to the closing bracket. The first argument bounds their number. -/
def readItems? {α : Type} (item : List Char → Option (α × List Char)) (close : Char) :
    Nat → List Char → Option (List α × List Char)
  | 0, _ => none
  | bound + 1, s => do
    match ← skipTrivia? false s with
    | [] => none
    | c :: rest =>
      if c = close then some ([], rest)
      else
        let (first, s) ← item (c :: rest)
        match ← skipTrivia? false s with
        | [] => none
        | c :: rest =>
          if c = ',' then
            let (more, s) ← readItems? item close bound rest
            some (first :: more, s)
          else if c = close then some ([first], rest)
          else none

/-- A key and its value. Around the equals sign stands what `skip` passes over. -/
def readPair? (skip : List Char → Option (List Char)) (value : List Char → Option (Toml × List Char))
    (s : List Char) : Option ((Key × Toml) × List Char) := do
  let (key, s) ← readKey? s
  match ← skip s with
  | '=' :: s =>
    let (value, s) ← value (← skip s)
    some ((key, value), s)
  | _ => none

/-- A value with at most `depth` brackets and braces open at a time. -/
def readValue? : Nat → List Char → Option (Toml × List Char)
  | depth + 1, '[' :: s => do
    let (items, s) ← readItems? (readValue? depth) ']' (s.length + 1) s
    some (list items, s)
  | depth + 1, '{' :: s => do
    let (pairs, s) ← readItems? (readPair? (skipTrivia? false) (readValue? depth)) '}' (s.length + 1) s
    let entries ← pairs.foldlM (fun entries (key, value) => assign key value entries) []
    some (table .braces entries, s)
  | _, s => ((readText? s).map fun (value, s) => (text value, s)) <|> readScalar? s

/-! ### Lines -/

inductive Line where
  | blank
  | header (key : Key)
  | arrayHeader (key : Key)
  | pair (key : Key) (value : Toml)

def readHeader? (s : List Char) : Option (Line × List Char) :=
  match s with
  | '[' :: s => do
    let (key, s) ← readKey? s
    match s with
    | ']' :: ']' :: s => some (.arrayHeader key, s)
    | _ => none
  | s => do
    let (key, s) ← readKey? s
    match s with
    | ']' :: s => some (.header key, s)
    | _ => none

def readLine? (s : List Char) : Option (Line × List Char) :=
  match skipSpace s with
  | [] => some (.blank, [])
  | c :: rest =>
    if c = '[' then readHeader? rest
    else if c = '#' ∨ c = '\n' ∨ c = '\r' then some (.blank, c :: rest)
    else (readPair? (some ∘ skipSpace) (readValue? maxDepth) (c :: rest)).map fun ((key, value), s) => (.pair key value, s)

/-- A document that is being read, and the path of the header that keys belong to. -/
structure Draft where
  root : Entries
  path : List String

def Draft.add? (draft : Draft) : Line → Option Draft
  | .blank => some draft
  | .header key => do
    let root ← within key.front (openTable key.last) draft.root
    some ⟨root, key.front ++ [key.last]⟩
  | .arrayHeader key => do
    let root ← within key.front (appendTable key.last) draft.root
    some ⟨root, key.front ++ [key.last]⟩
  | .pair key value => do
    let root ← within draft.path (assign key value) draft.root
    some ⟨root, draft.path⟩

/-- The lines of a document. The first argument bounds their number. -/
def readLines? (draft : Draft) : Nat → List Char → Option Entries
  | 0, _ => none
  | bound + 1, s => do
    let (line, s) ← readLine? s
    let draft ← draft.add? line
    let s ← skipToLineEnd? s
    if s.isEmpty then some draft.root
    else
      let s ← behindNewline? s
      readLines? draft bound s

def dropMark (s : List Char) : List Char :=
  match s with
  | '\uFEFF' :: rest => rest
  | s => s

/-- The entries of a document. A byte order mark in front does not count. -/
def read? (s : String) : Option Entries :=
  let s := dropMark s.toList
  readLines? ⟨[], []⟩ (s.length + 1) s

end NowPlaying.Toml
