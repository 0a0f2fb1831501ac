import NowPlaying.Text.Ranges

/-!
# Blank characters and trimming

A character is blank when it has the Unicode property White_Space; the zero-width space, the byte order mark and the Mongolian vowel separator are not blank. Trimming removes blank characters from both ends of a text and none from between.
-/

namespace NowPlaying.Text

def blankTable : Ranges :=
  [(0x0009, 0x000D), (0x0020, 0x0020), (0x0085, 0x0085), (0x00A0, 0x00A0), (0x1680, 0x1680), (0x2000, 0x200A),
  (0x2028, 0x2029), (0x202F, 0x202F), (0x205F, 0x205F), (0x3000, 0x3000)]

def isBlank (c : Char) : Bool := blankTable.contains c

def trimStart (s : List Char) : List Char := s.dropWhile isBlank

def trimEnd (s : List Char) : List Char := (s.reverse.dropWhile isBlank).reverse

def trim (s : List Char) : List Char := trimEnd (trimStart s)

end NowPlaying.Text
