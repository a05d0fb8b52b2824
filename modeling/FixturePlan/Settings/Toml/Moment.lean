import FixturePlan.Number.Digits

/-!
# Dates and times

The texts of TOML that denote a moment: a date, a time of day, or a date with a time of day, which may
be followed by its distance from universal time. Every part has a fixed number of digits and a range,
and days are counted by the calendar.
-/

namespace FixturePlan.Toml

/-! Each reader cuts its part off the front of a text. A moment is a text of which nothing is left. -/

/-- A number of just `width` digits from `least` to `most`. -/
def readPart (width least most : Nat) (cs : List Char) : Option (Nat × List Char) :=
  let digits := cs.take width
  let n := Number.ofDigits digits
  if digits.length == width && digits.all Char.isDigit && least ≤ n && n ≤ most then
    some (n, cs.drop width)
  else none

def skipMark (mark : Char) : List Char → Option (List Char)
  | c :: rest => if c == mark then some rest else none
  | [] => none

def isLeapYear (year : Nat) : Bool := (year % 4 == 0 && year % 100 != 0) || year % 400 == 0

def daysInMonth (year month : Nat) : Nat :=
  if month == 2 then if isLeapYear year then 29 else 28
  else if [4, 6, 9, 11].contains month then 30
  else 31

def skipDate (cs : List Char) : Option (List Char) := do
  let (year, cs) ← readPart 4 0 9999 cs
  let (month, cs) ← readPart 2 1 12 (← skipMark '-' cs)
  let (_, cs) ← readPart 2 1 (daysInMonth year month) (← skipMark '-' cs)
  return cs

def skipMinutes (cs : List Char) : Option (List Char) := do
  let (_, cs) ← readPart 2 0 23 cs
  let (_, cs) ← readPart 2 0 59 (← skipMark ':' cs)
  return cs

/-- Cut off a time of day. The seconds may be missing, and they may have a fraction. -/
def skipTime (cs : List Char) : Option (List Char) := do
  match ← skipMinutes cs with
  | ':' :: cs =>
    -- a minute may have a leap second
    match ← readPart 2 0 60 cs with
    | (_, '.' :: cs) =>
      let (fraction, cs) := Number.splitDigits cs
      if fraction.isEmpty then none else some cs
    | (_, cs) => some cs
  | cs => some cs

/-- Cut off a distance from universal time, which may be missing. -/
def skipOffset : List Char → Option (List Char)
  | 'Z' :: cs | 'z' :: cs => some cs
  | '+' :: cs | '-' :: cs => skipMinutes cs
  | cs => some cs

def isMoment (cs : List Char) : Bool :=
  match skipDate cs with
  | none => skipTime cs == some []
  | some [] => true
  | some (c :: cs) =>
    (c == 'T' || c == 't' || c == ' ') && (skipTime cs >>= skipOffset) == some []

end FixturePlan.Toml
