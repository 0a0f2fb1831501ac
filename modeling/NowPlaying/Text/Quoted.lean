import NowPlaying.Text.HiddenTable

/-!
# Quoted text

How messages show a text: between double quotes, with quotes, backslashes and the common controls escaped, and every character that does not show on its own written by its code point. An apostrophe stands for itself.
-/

namespace NowPlaying.Text

def isHidden (c : Char) : Bool := hiddenTable.contains c

def lowerHex (n : Nat) : List Char := Nat.toDigits 16 n

def quotedChar (c : Char) : List Char :=
  match c with
  | '"' => ['\\', '"']
  | '\\' => ['\\', '\\']
  | '\n' => ['\\', 'n']
  | '\r' => ['\\', 'r']
  | '\t' => ['\\', 't']
  | '\x00' => ['\\', '0']
  | c => if isHidden c then ['\\', 'u', '{'] ++ lowerHex c.toNat ++ ['}'] else [c]

def quotedChars (s : List Char) : List Char := '"' :: s.flatMap quotedChar ++ ['"']

def quoted (s : String) : String := String.ofList (quotedChars s.toList)

/-- Several quoted texts in square brackets. -/
def quotedList (items : List String) : String := "[" ++ ", ".intercalate (items.map quoted) ++ "]"

end NowPlaying.Text
