import NowPlaying.Template.Error
import NowPlaying.Text.Blank
import NowPlaying.Text.Width

/-!
# Reports of malformed formats

A report shows the line of the format that holds the fault and points at the character. Lines and columns count from one, columns in characters; the drawing below the line follows the width of the characters above it.
-/

namespace NowPlaying.Report

open Text

/-! ### Lines -/

def endsLine (c : Char) : Bool :=
  c = '\n' || c = '\r' || c = '\x0b' || c = '\x0c' || c = '\u0085' || c = '\u2028' || c = '\u2029'

/-- The lines of a text, each with the characters that end it. A carriage return and the line feed behind it end one line together. -/
def splitLines : List Char → List (List Char)
  | [] => []
  | '\r' :: '\n' :: rest => ['\r', '\n'] :: splitLines rest
  | c :: rest =>
    if endsLine c then [c] :: splitLines rest
    else
      match splitLines rest with
      | [] => [[c]]
      | line :: more => (c :: line) :: more

/-- A character of a text: the number of lines before its line, of characters before it there, and the line. -/
structure Place where
  line : Nat
  column : Nat
  text : List Char

def locate (line index : Nat) : List (List Char) → Option Place
  | [] => none
  | text :: more => if index < text.length then some ⟨line, index, text⟩ else locate (line + 1) (index - text.length) more

/-- The number of characters before a byte position, if a character begins there. -/
def charIndex? (position : Nat) : List Char → Option Nat
  | [] => if position = 0 then some 0 else none
  | c :: rest =>
    if position = 0 then some 0
    else if c.utf8Size ≤ position then (charIndex? (position - c.utf8Size) rest).map (· + 1)
    else none

def place? (format : List Char) (position : Nat) : Option Place := do
  let index ← charIndex? position format
  locate 0 index (splitLines format)

/-! ### Drawing -/

def tabWidth : Nat := 4

/-- What is drawn for the character in a column, and how many columns it takes. -/
def cell (column : Nat) (c : Char) : Char × Nat :=
  if c = '\t' then (' ', (column / tabWidth + 1) * tabWidth - column)
  else if isBlank c then (' ', 1)
  else (c, columns c)

def cells (line : List Char) : List (Char × Nat) := line.mapIdx cell

def drawLine (cells : List (Char × Nat)) : List Char :=
  cells.flatMap fun (c, width) => if isBlank c then List.replicate width c else [c]

/-- The widths of the first characters of a line. Behind its end every width is one. -/
def widths (cells : List (Char × Nat)) (count : Nat) : List Nat :=
  (cells.map Prod.snd).take count ++ List.replicate (count - cells.length) 1

/-- A mark in one column with a tail where the character above is wide. -/
def drawMark (mark tail : Char) (width : Nat) : List Char :=
  if width = 0 then [] else mark :: List.replicate (width - 1) tail

/-- The columns that characters of some widths take together. -/
def columns (widths : List Nat) : Nat := widths.foldr Nat.add 0

/-- A row below the line: blanks, a mark under the faulty character, and what follows it for two characters more. -/
def drawRow (cells : List (Char × Nat)) (column : Nat) (mark tail after : Char) : List Char :=
  let widths := widths cells (column + 3)
  List.replicate (columns (widths.take column)) ' '
    ++ drawMark mark tail (widths.getD column 1)
    ++ List.replicate (columns (widths.drop (column + 1))) after

def spaces (n : Nat) : String := String.ofList (List.replicate n ' ')

def draw (place : Place) (message : String) : String :=
  let number := toString (place.line + 1)
  let gutter := spaces (number.length + 2)
  let cells := cells (trimEnd place.text)
  let row (mark tail after : Char) := String.ofList (drawRow cells place.column mark tail after)
  let lines := [
    "Error: invalid format string",
    gutter ++ "╭─[ format:" ++ number ++ ":" ++ toString (place.column + 1) ++ " ]",
    gutter ++ "│",
    " " ++ number ++ " │ " ++ String.ofList (drawLine cells),
    gutter ++ "│ " ++ row '┬' '─' ' ',
    gutter ++ "│ " ++ row '╰' '─' '─' ++ " " ++ message,
    String.ofList (List.replicate (number.length + 2) '─') ++ "╯"]
  String.join (lines.map (· ++ "\n"))

/-- Only a malformed format has a place to report. -/
def ofError? (format : String) : FormatError → Option String
  | .malformed what => (place? format.toList what.position).map fun place => draw place what.fault.message
  | _ => none

end NowPlaying.Report
