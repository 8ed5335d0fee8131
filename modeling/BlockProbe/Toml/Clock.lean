/-
Reading dates and times.

A date is `YYYY-MM-DD`, a time `hh:mm:ss` with an optional fraction. Between a date and its time stands `T`, `t` or one
space; an offset (`Z`, `z`, `+hh:mm` or `-hh:mm`) may follow when both are there. A date that is not followed by a time
is a date alone, so the blank after it belongs to what comes next. Digits of a fraction beyond the ninth are dropped.
-/
import BlockProbe.Toml.Moment
import BlockProbe.Toml.Scan

namespace BlockProbe.Toml

def readDate : Reader Date := fun text => do
  let (year, text) ← fixedDigits 4 text
  let text ← expect '-' text
  let (month, text) ← fixedDigits 2 text
  let text ← expect '-' text
  let (day, text) ← fixedDigits 2 text
  let date : Date := { year, month, day }
  if date.isValid then some (date, text) else none

/-- the fraction of a second in nanoseconds, zero when there is none -/
def readFraction (text : List Char) : Nat × List Char :=
  match text with
  | '.' :: rest =>
    let digits := rest.takeWhile isDigit
    if digits.isEmpty then (0, text)
    else
      let nine := (digits ++ List.replicate 9 '0').take 9
      (nine.foldl (fun n c => n * 10 + (c.toNat - '0'.toNat)) 0, rest.dropWhile isDigit)
  | _ => (0, text)

def readTime : Reader TimeOfDay := fun text => do
  let (hour, text) ← fixedDigits 2 text
  let text ← expect ':' text
  let (minute, text) ← fixedDigits 2 text
  let text ← expect ':' text
  let (second, text) ← fixedDigits 2 text
  let (nanosecond, text) := readFraction text
  let time : TimeOfDay := { hour, minute, second, nanosecond }
  if time.isValid then some (time, text) else none

/-- hours and minutes of an offset, as minutes -/
def readShift : Reader Nat := fun text => do
  let (hour, text) ← fixedDigits 2 text
  let text ← expect ':' text
  let (minute, text) ← fixedDigits 2 text
  if hour ≤ 23 ∧ minute ≤ 59 then some (hour * 60 + minute, text) else none

def readOffset : Reader Offset
  | 'Z' :: rest => some (.utc, rest)
  | 'z' :: rest => some (.utc, rest)
  | '+' :: rest => (readShift rest).map fun (shift, rest) => (.minutes shift, rest)
  | '-' :: rest => (readShift rest).map fun (shift, rest) => (.minutes (-(shift : Int)), rest)
  | _ => none

/-- the time that follows a date -/
def readTimePart : Reader TimeOfDay
  | 'T' :: rest => readTime rest
  | 't' :: rest => readTime rest
  | ' ' :: rest => readTime rest
  | _ => none

def readMoment : Reader Moment := fun text =>
  match readDate text with
  | some (date, rest) =>
    match readTimePart rest with
    | some (time, rest) =>
      match readOffset rest with
      | some (offset, rest) => some (.zoned date time offset, rest)
      | none => some (.unzoned date time, rest)
    | none => some (.dateOnly date, rest)
  | none => (readTime text).map fun (time, rest) => (.timeOnly time, rest)

/-- the moment that a text is, all of it -/
def momentOf? (text : String) : Option Moment :=
  match readMoment text.toList with
  | some (moment, []) => some moment
  | _ => none

end BlockProbe.Toml
