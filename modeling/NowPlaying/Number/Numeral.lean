import NowPlaying.Number.Double

/-!
# Decimal numerals

A numeral is an optional sign, digits with an optional point among, before or behind them, and an optional power of ten. It denotes an exact decimal, which `toDouble` rounds once. `readDouble?` also knows the words for infinity and for not-a-number, in any mixture of cases.
-/

namespace NowPlaying

open Number

/-- The decimal `digits * 10 ^ power` with a sign of its own, so that minus zero is a numeral. -/
structure Numeral where
  negative : Bool
  digits : Nat
  power : Int
  deriving DecidableEq, Repr

namespace Numeral

def toDouble (n : Numeral) : Double := Double.ofDecimal n.negative n.digits n.power

/-- The power a numeral ends with: nothing for zero, or `e`, an optional sign and at least one digit. -/
def readPower? : List Char → Option Int
  | [] => some 0
  | c :: rest => if c = 'e' ∨ c = 'E' then readInt? rest else none

/-- The digits behind a point, if there is a point, and the rest. -/
def takeFraction : List Char → List Char × List Char
  | '.' :: rest => takeDigits rest
  | rest => ([], rest)

def read? (s : List Char) : Option Numeral :=
  let (negative, s) := takeSign s
  let (whole, s) := takeDigits s
  let (fraction, s) := takeFraction s
  if whole.isEmpty && fraction.isEmpty then none
  else (readPower? s).map fun power =>
    ⟨negative, ofDigits (whole ++ fraction), power - fraction.length⟩

end Numeral

namespace Double

/-- The words that stand for a double, in lower case. -/
def readWord? (negative : Bool) (s : List Char) : Option Double :=
  if s = "inf".toList ∨ s = "infinity".toList then some (.infinite negative)
  else if s = "nan".toList then some .nan
  else none

def read? (s : List Char) : Option Double :=
  match Numeral.read? s with
  | some n => some n.toDouble
  | none =>
    let (negative, word) := takeSign s
    readWord? negative (word.map Char.toLower)

end Double

end NowPlaying
