import NowPlaying.Number.Digits

/-!
# Durations

A number of microseconds as hours, minutes and seconds. Hours are left out when there are none; minutes behind hours and all seconds take two columns, and a minus sign is one of them. Every field is cut toward zero and carries the sign of the whole.
-/

namespace NowPlaying.Duration

open Number

/-- Two columns at least, the sign included, filled up with zeros. -/
def twoColumns (n : Int) : List Char :=
  if n < 0 then '-' :: paddedDigits 1 n.natAbs else paddedDigits 2 n.natAbs

def seconds (micros : Int) : Int := (micros.tdiv 1000000).tmod 60

def minutes (micros : Int) : Int := (micros.tdiv 60000000).tmod 60

def hours (micros : Int) : Int := micros.tdiv 3600000000

def write (micros : Int) : List Char :=
  if hours micros ≠ 0 then
    digitsOfInt (hours micros) ++ ':' :: twoColumns (minutes micros) ++ ':' :: twoColumns (seconds micros)
  else digitsOfInt (minutes micros) ++ ':' :: twoColumns (seconds micros)

def format (micros : Int64) : String := String.ofList (write micros.toInt)

end NowPlaying.Duration
