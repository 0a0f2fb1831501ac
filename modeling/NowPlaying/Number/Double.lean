import NowPlaying.Number.Digits
import NowPlaying.Number.Rounding

/-!
# Binary floating point, 64 bits wide

A finite double is a sign and a rank: its place among the finite magnitudes in increasing order, with zero first. The rank determines a mantissa below 2 ^ 53 and an exponent from -1074 on, and the magnitude is exactly mantissa * 2 ^ exponent. Every operation takes its exact rational result and rounds it once, to the nearest magnitude, ties going to the even mantissa; a result that rounds past the last rank is infinite.
-/

namespace NowPlaying

open Number

def Double.ranks : Nat := 2047 * Nat.pow 2 52

inductive Double where
  | nan
  | infinite (negative : Bool)
  | finite (negative : Bool) (rank : Fin Double.ranks)
  deriving DecidableEq, Repr

namespace Double

/-! ### Ranks and magnitudes -/

def mantissa (rank : Nat) : Nat := if rank < Nat.pow 2 52 then rank else Nat.pow 2 52 + rank % Nat.pow 2 52

def exponent (rank : Nat) : Int := if rank < Nat.pow 2 52 then -1074 else (rank / Nat.pow 2 52 : Nat) - 1075

/-- Numerator of the magnitude as a quotient. -/
def num (rank : Nat) : Nat := mantissa rank * powTwo (exponent rank)

/-- Denominator of the magnitude as a quotient. -/
def den (rank : Nat) : Nat := powTwo (-exponent rank)

def zero (negative : Bool) : Double := .finite negative ⟨0, by decide⟩

/-- The sign with the magnitude of a rank, or an infinity when there is no such rank. -/
def ofRank (negative : Bool) (rank : Nat) : Double :=
  if h : rank < ranks then .finite negative ⟨rank, h⟩ else .infinite negative

/-! ### Rounding a quotient -/

/-- The exponent whose multiples a quotient is rounded to: the one that leaves 53 binary digits before the point, but never below -1074. -/
def gridExponent (num den : Nat) : Int :=
  let low : Int := (num.log2 : Int) - den.log2 - 53
  let fits := num * powTwo (-(low + 53)) < den * powTwo (low + 53)
  max (-1074) (if fits then low else low + 1)

/-- The rank of the magnitude nearest to a quotient, if the ranks went on for ever. -/
def roundRank (num den : Nat) : Nat :=
  if num = 0 then 0 else
    let grid := gridExponent num den
    (grid + 1074).toNat * Nat.pow 2 52 + roundDiv .even (num * powTwo (-grid)) (den * powTwo grid)

def ofRatio (negative : Bool) (num den : Nat) : Double := ofRank negative (roundRank num den)

def ofNat (n : Nat) : Double := ofRatio false n 1

def ofInt (n : Int) : Double := ofRatio (n < 0) n.natAbs 1

/-- The double nearest to `digits * 10 ^ power`. Far outside the range of the finite magnitudes the power is not computed. -/
def ofDecimal (negative : Bool) (digits : Nat) (power : Int) : Double :=
  let size := (digitsOf digits).length + power
  if digits = 0 || size < -400 then zero negative
  else if 400 < size then .infinite negative
  else ofRatio negative (digits * powTen power) (powTen (-power))

/-! ### Arithmetic -/

def neg : Double → Double
  | .nan => .nan
  | .infinite negative => .infinite !negative
  | .finite negative rank => .finite (!negative) rank

def isFinite : Double → Bool
  | .finite .. => true
  | _ => false

def isZero : Double → Bool
  | .finite _ rank => rank.val == 0
  | _ => false

def mul : Double → Double → Double
  | .finite a r, .finite b s => ofRatio (a != b) (num r * num s) (den r * den s)
  | .nan, _ => .nan
  | _, .nan => .nan
  | .infinite a, .infinite b => .infinite (a != b)
  | .infinite a, .finite b s => if s.val = 0 then .nan else .infinite (a != b)
  | .finite a r, .infinite b => if r.val = 0 then .nan else .infinite (a != b)

def div : Double → Double → Double
  | .finite a r, .finite b s =>
    if s.val = 0 then if r.val = 0 then .nan else .infinite (a != b)
    else ofRatio (a != b) (num r * den s) (den r * num s)
  | .nan, _ => .nan
  | _, .nan => .nan
  | .infinite _, .infinite _ => .nan
  | .infinite a, .finite b _ => .infinite (a != b)
  | .finite a _, .infinite b => zero (a != b)

end Double

end NowPlaying
