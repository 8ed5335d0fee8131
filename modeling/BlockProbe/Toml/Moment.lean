/-
Dates and times as configuration values.

A moment is a date with a time and an offset from UTC, a date with a time, a date alone, or a time alone. Nothing here
computes with time: a moment is read, checked against the calendar and written back in one normal form, with `T`
between date and time, `Z` for UTC given as such, and a fraction of at most nine digits without trailing zeros.
-/

namespace BlockProbe.Toml

structure Date where
  year : Nat
  month : Nat
  day : Nat
deriving DecidableEq, Repr

/-- a time of day, with the fraction in nanoseconds -/
structure TimeOfDay where
  hour : Nat
  minute : Nat
  second : Nat
  nanosecond : Nat
deriving DecidableEq, Repr

inductive Offset where
  | utc
  | minutes (east : Int)
deriving DecidableEq, Repr

inductive Moment where
  | zoned (date : Date) (time : TimeOfDay) (offset : Offset)
  | unzoned (date : Date) (time : TimeOfDay)
  | dateOnly (date : Date)
  | timeOnly (time : TimeOfDay)
deriving DecidableEq, Repr

/-- a number in decimal, padded on the left with zeros -/
def padded (width n : Nat) : String :=
  let digits := Nat.toDigits 10 n
  String.ofList (List.replicate (width - digits.length) '0' ++ digits)

/-- years divisible by 4, except centuries not divisible by 400 -/
def isLeapYear (year : Nat) : Bool :=
  (year % 4 == 0 && year % 100 != 0) || year % 400 == 0

def daysInMonth (year month : Nat) : Nat :=
  if month = 2 then (if isLeapYear year then 29 else 28)
  else if month = 4 ∨ month = 6 ∨ month = 9 ∨ month = 11 then 30
  else 31

def Date.isValid (date : Date) : Bool :=
  1 ≤ date.month && date.month ≤ 12 && 1 ≤ date.day && date.day ≤ daysInMonth date.year date.month

/-- is the time on the clock? A minute may have a second numbered 60. -/
def TimeOfDay.isValid (time : TimeOfDay) : Bool :=
  time.hour ≤ 23 && time.minute ≤ 59 && time.second ≤ 60

def Date.text (date : Date) : String :=
  padded 4 date.year ++ "-" ++ padded 2 date.month ++ "-" ++ padded 2 date.day

/-- the fraction of a second as text, nothing when it is zero -/
def fractionText (nanosecond : Nat) : String :=
  if nanosecond = 0 then ""
  else "." ++ String.ofList ((padded 9 nanosecond).toList.reverse.dropWhile (· == '0')).reverse

def TimeOfDay.text (time : TimeOfDay) : String :=
  padded 2 time.hour ++ ":" ++ padded 2 time.minute ++ ":" ++ padded 2 time.second ++
    fractionText time.nanosecond

def Offset.text : Offset → String
  | .utc => "Z"
  | .minutes east =>
    (if 0 ≤ east then "+" else "-") ++ padded 2 (east.natAbs / 60) ++ ":" ++ padded 2 (east.natAbs % 60)

def Moment.text : Moment → String
  | .zoned date time offset => date.text ++ "T" ++ time.text ++ offset.text
  | .unzoned date time => date.text ++ "T" ++ time.text
  | .dateOnly date => date.text
  | .timeOnly time => time.text

end BlockProbe.Toml
