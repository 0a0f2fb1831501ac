import NowPlaying.NameMap
import NowPlaying.Number.Layout

/-!
# JSON values

An object keeps its members in increasing order of name. A member given twice keeps the later value. Numbers written without a point or a power are integers when 64 bits hold them, with or without a sign; every other number is a double.
-/

namespace NowPlaying

open Number

inductive Json where
  | null
  | bool (value : Bool)
  | integer (value : Int)
  | float (value : Double)
  | text (value : String)
  | list (items : List Json)
  | object (members : List (String × Json))

namespace Json

instance : Inhabited Json := ⟨.null⟩

/-- The members of an object in the order in which they were given, gathered by name. -/
def gather (members : List (String × Json)) : List (String × Json) :=
  members.foldl (fun gathered member => Entries.insert member.1 member.2 gathered) []

/-! ### Compact text -/

/-- Doubles are positional from one hundred-thousandth up to sixteen digits, their powers carry a sign, and ties go to the even digit. -/
def layout : Layout := ⟨-5, 15, true, .even⟩

def escapedChar (c : Char) : List Char :=
  match c with
  | '"' => ['\\', '"']
  | '\\' => ['\\', '\\']
  | '\x08' => ['\\', 'b']
  | '\x0c' => ['\\', 'f']
  | '\n' => ['\\', 'n']
  | '\r' => ['\\', 'r']
  | '\t' => ['\\', 't']
  | c =>
    if c.toNat < 0x20 then
      ['\\', 'u', '0', '0', Nat.digitChar (c.toNat / 16), Nat.digitChar (c.toNat % 16)]
    else [c]

def writeText (s : String) : List Char := '"' :: s.toList.flatMap escapedChar ++ ['"']

mutual

def write : Json → List Char
  | .null => "null".toList
  | .bool value => if value then "true".toList else "false".toList
  | .integer value => digitsOfInt value
  | .float value => value.write layout
  | .text value => writeText value
  | .list items => '[' :: writeItems items ++ [']']
  | .object members => '{' :: writeMembers members ++ ['}']

def writeItems : List Json → List Char
  | [] => []
  | [item] => item.write
  | item :: rest => item.write ++ ',' :: writeItems rest

def writeMembers : List (String × Json) → List Char
  | [] => []
  | [(name, value)] => writeText name ++ ':' :: value.write
  | (name, value) :: rest => writeText name ++ ':' :: value.write ++ ',' :: writeMembers rest

end

def compact (json : Json) : String := String.ofList json.write

end Json

end NowPlaying
