import NowPlaying.Number.Double

/-!
# The shortest decimal of a double

Among the decimals that read back as a positive double, the shortest is a multiple of the largest possible power of ten, and of the multiples of that power it is the nearest to the double. Where two of them are equally near, the caller says which one to take. Only the two neighbours of the double among those multiples have to be tried. Powers are tried from one above the double downwards; at the lowest power the double is itself a multiple, so the search ends.
-/

namespace NowPlaying

open Number

/-- A positive decimal `digits * 10 ^ power`. -/
structure Decimal where
  digits : Nat
  power : Int
  deriving DecidableEq, Repr

namespace Decimal

def readsAs (rank : Nat) (d : Decimal) : Bool :=
  Double.ofDecimal false d.digits d.power == Double.ofRank false rank

/-- How many multiples of `10 ^ power` fit under a magnitude, rounded to the nearest. -/
def nearest (tie : Tie) (rank : Nat) (power : Int) : Decimal :=
  ⟨roundDiv tie (Double.num rank * powTen (-power)) (Double.den rank * powTen power), power⟩

/-- The neighbour on the other side of the magnitude. -/
def farther (tie : Tie) (rank : Nat) (power : Int) : Decimal :=
  let below := Double.num rank * powTen (-power) / (Double.den rank * powTen power)
  ⟨if (nearest tie rank power).digits = below then below + 1 else below, power⟩

def onGrid? (tie : Tie) (rank : Nat) (power : Int) : Option Decimal :=
  [nearest tie rank power, farther tie rank power].find? (readsAs rank)

/-- A power of ten at which every digit of the magnitude stands before the point. -/
def lastPower (rank : Nat) : Int := min 0 (Double.exponent rank)

/-- A power of ten above the magnitude: 30103 / 100000 is a little more than the logarithm of two. -/
def firstPower (rank : Nat) : Int :=
  ((Double.mantissa rank).log2 + 1 + Double.exponent rank) * 30103 / 100000 + 1

def searchFrom (tie : Tie) (rank : Nat) : Nat → Decimal
  | 0 => nearest tie rank (lastPower rank)
  | steps + 1 => (onGrid? tie rank (lastPower rank + (steps + 1 : Nat))).getD (searchFrom tie rank steps)

def shortest (tie : Tie) (rank : Nat) : Decimal := searchFrom tie rank (firstPower rank - lastPower rank).toNat

end Decimal

end NowPlaying
