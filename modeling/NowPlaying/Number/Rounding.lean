/-!
# Rounding quotients

Quotients of natural numbers are rounded to the nearest integer. A half goes to the even neighbour, or always up.
-/

namespace NowPlaying.Number

/-- Where a quotient halfway between two integers goes. -/
inductive Tie where
  | even
  | up
  deriving DecidableEq, Repr

def Tie.choose (tie : Tie) (below : Nat) : Nat :=
  match tie with
  | .even => below + below % 2
  | .up => below + 1

def roundDiv (tie : Tie) (num den : Nat) : Nat :=
  let quotient := num / den
  let rest := num % den
  if 2 * rest < den then quotient
  else if den < 2 * rest then quotient + 1
  else tie.choose quotient

/-- `2 ^ k`, read as 1 where the exponent is negative: `x * 2 ^ k` is `x * powTwo k / powTwo (-k)`. -/
def powTwo (k : Int) : Nat := Nat.pow 2 k.toNat

/-- `10 ^ k`, read as 1 where the exponent is negative. -/
def powTen (k : Int) : Nat := Nat.pow 10 k.toNat

end NowPlaying.Number
