import NowPlaying.Number.Shortest

/-!
# Writing doubles

Two ways to write a double. The shortest form has the digits of its shortest decimal, positional near one and with a power of ten elsewhere; a `Layout` says where, and which of two equally near decimals is taken. The fixed form has a given number of places, the exact value rounded to them with ties going to the even digit.
-/

namespace NowPlaying

open Number

/-- Where positional writing begins and ends, by the power of ten of the first digit, how a power is written, and where ties go. -/
structure Layout where
  leastPositional : Int
  mostPositional : Int
  plusSign : Bool
  tie : Tie

namespace Layout

def zeros (n : Int) : List Char := List.replicate n.toNat '0'

/-- At least one digit on either side of the point. -/
def positional (digits : List Char) (power : Int) : List Char :=
  let whole := digits.length + power
  if 0 ≤ power then digits ++ zeros power ++ ['.', '0']
  else if 0 < whole then digits.take whole.toNat ++ '.' :: digits.drop whole.toNat
  else ['0', '.'] ++ zeros (-whole) ++ digits

def scientific (layout : Layout) (digits : List Char) (power : Int) : List Char :=
  let lead := digits.length - 1 + power
  let point := if digits.length ≤ 1 then [] else ['.']
  let plus := if layout.plusSign && 0 ≤ lead then ['+'] else []
  digits.take 1 ++ point ++ digits.drop 1 ++ 'e' :: plus ++ digitsOfInt lead

def magnitude (layout : Layout) (d : Decimal) : List Char :=
  let digits := digitsOf d.digits
  let lead := digits.length - 1 + d.power
  if layout.leastPositional ≤ lead ∧ lead ≤ layout.mostPositional then positional digits d.power
  else layout.scientific digits d.power

end Layout

namespace Double

def minusSign (negative : Bool) : List Char := if negative then ['-'] else []

def write (layout : Layout) : Double → List Char
  | .nan => "NaN".toList
  | .infinite negative => minusSign negative ++ "inf".toList
  | .finite negative rank =>
    minusSign negative ++
      if rank.val = 0 then "0.0".toList else layout.magnitude (Decimal.shortest layout.tie rank)

def writeFixed (places : Nat) : Double → List Char
  | .nan => "NaN".toList
  | .infinite negative => minusSign negative ++ "inf".toList
  | .finite negative rank =>
    let units := roundDiv .even (num rank * Nat.pow 10 places) (den rank)
    minusSign negative ++ digitsOf (units / Nat.pow 10 places) ++ '.' :: paddedDigits places (units % Nat.pow 10 places)

end Double

end NowPlaying
