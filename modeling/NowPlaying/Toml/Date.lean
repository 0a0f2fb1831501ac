import NowPlaying.Number.Digits

/-!
# Dates and times in TOML

A date, a time of day, or a date and a time with an optional offset. Seconds may be left out. The normal form writes a capital T between date and time, a capital Z for no offset, and at most nine digits of a second without trailing zeros.
-/

namespace NowPlaying.Toml

open Number

/-- Exactly `width` digits at the start of a text, as a number. -/
def takeNumber? (width : Nat) (s : List Char) : Option (Nat × List Char) :=
  let digits := s.take width
  if digits.length = width && digits.all isDigit then some (ofDigits digits, s.drop width) else none

def takeChar? (c : Char) : List Char → Option (List Char)
  | d :: rest => if c = d then some rest else none
  | [] => none

def isLeapYear (year : Nat) : Bool := year % 4 = 0 && (year % 100 ≠ 0 || year % 400 = 0)

def daysIn (year month : Nat) : Nat :=
  if month = 2 then if isLeapYear year then 29 else 28
  else if month = 4 ∨ month = 6 ∨ month = 9 ∨ month = 11 then 30
  else 31

def twoDigits (n : Nat) : List Char := paddedDigits 2 n

/-- A date in normal form, and the rest. -/
def readDay? (s : List Char) : Option (List Char × List Char) := do
  let (year, s) ← takeNumber? 4 s
  let s ← takeChar? '-' s
  let (month, s) ← takeNumber? 2 s
  let s ← takeChar? '-' s
  let (day, s) ← takeNumber? 2 s
  if 1 ≤ month && month ≤ 12 && 1 ≤ day && day ≤ daysIn year month then
    some (paddedDigits 4 year ++ '-' :: twoDigits month ++ '-' :: twoDigits day, s)
  else none

def dropTrailingZeros (digits : List Char) : List Char := (digits.reverse.dropWhile (· = '0')).reverse

/-- The fraction of a second behind its point. -/
def readFraction? (s : List Char) : Option (List Char × List Char) :=
  match takeDigits s with
  | ([], _) => none
  | (digits, rest) =>
    let kept := dropTrailingZeros (digits.take 9)
    some ('.' :: if kept.isEmpty then ['0'] else kept, rest)

def readSeconds? (s : List Char) : Option (List Char × List Char) :=
  match s with
  | ':' :: s => do
    let (second, s) ← takeNumber? 2 s
    if 60 < second then none
    else
      match s with
      | '.' :: s => (readFraction? s).map fun (fraction, s) => (':' :: twoDigits second ++ fraction, s)
      | s => some (':' :: twoDigits second, s)
  | s => some ([], s)

/-- A time of day in normal form, and the rest. -/
def readTime? (s : List Char) : Option (List Char × List Char) := do
  let (hour, s) ← takeNumber? 2 s
  let s ← takeChar? ':' s
  let (minute, s) ← takeNumber? 2 s
  let (seconds, s) ← readSeconds? s
  if hour ≤ 23 && minute ≤ 59 then some (twoDigits hour ++ ':' :: twoDigits minute ++ seconds, s) else none

/-- An offset up to the end of the text. No offset at all is the empty text. -/
def readOffset? : List Char → Option (List Char)
  | [] => some []
  | c :: s =>
    if (c = 'Z' ∨ c = 'z') ∧ s = [] then some ['Z']
    else if c = '+' ∨ c = '-' then do
      let (hours, s) ← takeNumber? 2 s
      let s ← takeChar? ':' s
      let (minutes, s) ← takeNumber? 2 s
      if hours ≤ 23 && minutes ≤ 59 && s.isEmpty then
        let sign := if hours = 0 ∧ minutes = 0 then '+' else c
        some (sign :: twoDigits hours ++ ':' :: twoDigits minutes)
      else none
    else none

/-- A whole text that is a date, in normal form. -/
def readDate? (s : List Char) : Option (List Char) :=
  match readDay? s with
  | some (day, []) => some day
  | some (day, c :: rest) =>
    if c = 'T' ∨ c = 't' ∨ c = ' ' then do
      let (time, rest) ← readTime? rest
      let offset ← readOffset? rest
      some (day ++ 'T' :: time ++ offset)
    else none
  | none =>
    match readTime? s with
    | some (time, []) => some time
    | _ => none

end NowPlaying.Toml
