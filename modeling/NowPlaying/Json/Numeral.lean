import NowPlaying.Json

/-!
# Numbers in JSON text

A number that is not a 64-bit integer is read as a 64-bit significand scaled by a power of ten: digits that no longer fit are dropped, and the scaling multiplies or divides once by a power up to the 308th, each step rounded to a double. A number beyond the largest double is refused.
-/

namespace NowPlaying

open Number

namespace Json

/-- The parts of a number as they are written. -/
structure NumberText where
  negative : Bool
  whole : List Char
  fraction : List Char
  power : Option (Bool × List Char)

def maxSignificand : Nat := Nat.pow 2 64 - 1

/-- Appends digits to a significand for as long as it fits. The digits left over come second. -/
def appendDigits (significand : Nat) : List Char → Nat × List Char
  | [] => (significand, [])
  | c :: rest =>
    let longer := 10 * significand + digitValue c
    if longer ≤ maxSignificand then appendDigits longer rest else (significand, c :: rest)

def tenTo (power : Nat) : Double := Double.ofNat (Nat.pow 10 power)

def largestStep : Nat := 308

def scaleDown (x : Double) (power : Nat) : Double :=
  if power ≤ largestStep then x.div (tenTo power)
  else if x.isZero then x
  else scaleDown (x.div (tenTo largestStep)) (power - largestStep)
termination_by power
decreasing_by simp only [largestStep] at *; omega

def scaleUp? (x : Double) (power : Nat) : Option Double :=
  if x.isZero then some x
  else if power ≤ largestStep then
    let scaled := x.mul (tenTo power)
    if scaled.isFinite then some scaled else none
  else none

def scale? (negative : Bool) (significand : Nat) (power : Int) : Option Double :=
  let x := Double.ofNat significand
  let scaled := if power < 0 then some (scaleDown x power.natAbs) else scaleUp? x power.natAbs
  scaled.map fun y => if negative then y.neg else y

namespace NumberText

/-- The significand and the power of ten that the digits before and behind the point give. -/
def significand (n : NumberText) : Nat × Int :=
  let (whole, beyond) := appendDigits 0 n.whole
  let (all, dropped) := appendDigits whole n.fraction
  (all, beyond.length - (n.fraction.length - dropped.length : Nat))

def toDouble? (n : NumberText) : Option Double :=
  let (significand, power) := n.significand
  match n.power with
  | none => scale? n.negative significand power
  | some (negative, digits) =>
    let by' := ofDigits digits
    scale? n.negative significand (if negative then power - by' else power + by')

/-- Whether a point or a power makes the number a double however it is valued. -/
def isPlain (n : NumberText) : Bool := n.fraction.isEmpty && n.power.isNone

def toJson? (n : NumberText) : Option Json :=
  let value := ofDigits n.whole
  if n.isPlain && !n.negative && value ≤ maxSignificand then some (.integer value)
  else if n.isPlain && n.negative && 0 < value && value ≤ Nat.pow 2 63 then some (.integer (-value))
  else n.toDouble?.map .float

end NumberText

/-! ### Reading the parts -/

def takeWhole? (s : List Char) : Option (List Char × List Char) :=
  match takeDigits s with
  | ([], _) => none
  | (['0'], rest) => some (['0'], rest)
  | ('0' :: _, _) => none
  | (digits, rest) => some (digits, rest)

def takeFraction? : List Char → Option (List Char × List Char)
  | '.' :: rest =>
    match takeDigits rest with
    | ([], _) => none
    | found => some found
  | rest => some ([], rest)

def takePower? : List Char → Option (Option (Bool × List Char) × List Char)
  | c :: rest =>
    if c = 'e' ∨ c = 'E' then
      let (negative, rest) := takeSign rest
      match takeDigits rest with
      | ([], _) => none
      | (digits, rest) => some (some (negative, digits), rest)
    else some (none, c :: rest)
  | [] => some (none, [])

def takeMinus : List Char → Bool × List Char
  | '-' :: rest => (true, rest)
  | rest => (false, rest)

def readNumber? (s : List Char) : Option (Json × List Char) := do
  let (negative, s) := takeMinus s
  let (whole, s) ← takeWhole? s
  let (fraction, s) ← takeFraction? s
  let (power, s) ← takePower? s
  let json ← NumberText.toJson? ⟨negative, whole, fraction, power⟩
  some (json, s)

end Json

end NowPlaying
