import NowPlaying.Text.WidthTable

/-!
# Columns on a terminal

How many columns a character takes when it is shown. Controls count as one column.
-/

namespace NowPlaying.Text

def columns (c : Char) : Nat :=
  if c.toNat < 0xA0 then 1
  else if c.toNat = 0x17D8 then 3
  else if zeroWidthTable.contains c then 0
  else if doubleWidthTable.contains c then 2
  else 1

end NowPlaying.Text
