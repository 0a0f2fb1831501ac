/-!
# Tables of code points

A property of characters is kept as the list of its code point ranges, in increasing order and both ends included. A search may stop at the first range that begins beyond the character.
-/

namespace NowPlaying.Text

abbrev Ranges := List (Nat × Nat)

def Ranges.holds : Ranges → Nat → Bool
  | [], _ => false
  | (first, last) :: rest, n => if n < first then false else n ≤ last || Ranges.holds rest n

def Ranges.contains (table : Ranges) (c : Char) : Bool := table.holds c.toNat

end NowPlaying.Text
