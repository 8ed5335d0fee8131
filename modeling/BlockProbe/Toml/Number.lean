/-
Reading integers and floating point numbers.

Digits may be grouped with single underscores between two digits. A decimal integer may have a sign and has no leading
zero; hexadecimal, octal and binary integers have neither sign nor limit on leading zeros. An integer outside the 64-bit
signed range is refused, and so is a decimal fraction too large for a finite value; one too far below zero is minus
infinity. `inf` and `nan` may have a sign.
-/
import BlockProbe.Decimal.Binary64
import BlockProbe.Toml.Scan

namespace BlockProbe.Toml

open BlockProbe.Decimal (Binary64)

/-- the value of a digit in any base up to sixteen -/
def digitValue (c : Char) : Nat :=
  if '0' ≤ c ∧ c ≤ '9' then c.toNat - '0'.toNat
  else if 'a' ≤ c ∧ c ≤ 'f' then c.toNat - 'a'.toNat + 10
  else if 'A' ≤ c ∧ c ≤ 'F' then c.toNat - 'A'.toNat + 10
  else 16

def isDigitOf (base : Nat) (c : Char) : Bool := digitValue c < base

/-- digits with single underscores between them, in reverse after those already taken -/
def groupedDigits (base : Nat) (taken : List Char) : List Char → List Char × List Char
  | [] => (taken, [])
  | [c] => if isDigitOf base c then (c :: taken, []) else (taken, [c])
  | c :: next :: rest =>
    if isDigitOf base c then groupedDigits base (c :: taken) (next :: rest)
    else if c == '_' && !taken.isEmpty && isDigitOf base next then
      groupedDigits base (next :: taken) rest
    else (taken, c :: next :: rest)

/-- one or more digits of a base, grouped or not -/
def readDigits (base : Nat) : Reader (List Char) := fun text =>
  let (taken, rest) := groupedDigits base [] text
  if taken.isEmpty then none else some (taken.reverse, rest)

def valueOf (base : Nat) (digits : List Char) : Nat :=
  digits.foldl (fun n c => n * base + digitValue c) 0

def readSign : List Char → Bool × List Char
  | '-' :: rest => (true, rest)
  | '+' :: rest => (false, rest)
  | text => (false, text)

/-- the digits of a decimal integer: no zero before another digit -/
def readWhole : Reader (List Char)
  | '0' :: rest => some (['0'], rest)
  | text => readDigits 10 text

/-- a number as a signed 64-bit integer, if it is in range -/
def toInt64? (n : Int) : Option Int64 :=
  if Int64.minValue.toInt ≤ n ∧ n ≤ Int64.maxValue.toInt then some (Int64.ofInt n) else none

/-- a sign applied to a size -/
def signed (negative : Bool) (size : Nat) : Int := if negative then -(size : Int) else size

/-- an integer in hexadecimal, octal or binary, after its two-letter mark -/
def readBased (base : Nat) : Reader Int64 := fun text => do
  let (digits, rest) ← readDigits base text
  let value ← toInt64? (valueOf base digits)
  some (value, rest)

def readInteger : Reader Int64
  | '0' :: 'x' :: rest => readBased 16 rest
  | '0' :: 'o' :: rest => readBased 8 rest
  | '0' :: 'b' :: rest => readBased 2 rest
  | text => do
    let (negative, text) := readSign text
    let (digits, rest) ← readWhole text
    let value ← toInt64? (signed negative (valueOf 10 digits))
    some (value, rest)

def readExponent : Reader Int
  | 'e' :: rest | 'E' :: rest => do
    let (negative, rest) := readSign rest
    let (digits, rest) ← readDigits 10 rest
    some (signed negative (valueOf 10 digits), rest)
  | _ => none

def readPlaces : Reader (List Char)
  | '.' :: rest => readDigits 10 rest
  | _ => none

/-- the value a decimal rounds to, unless that is plus infinity -/
def rounded? (negative : Bool) (digits : List Char) (scale : Int) : Option Binary64 :=
  match Binary64.ofDecimal negative (valueOf 10 digits) scale with
  | .infinite false => none
  | value => some value

/-- a floating point number with a point, an exponent, or both -/
def readDecimal : Reader Binary64 := fun text => do
  let (negative, text) := readSign text
  let (whole, text) ← readWhole text
  match readPlaces text with
  | some (places, text) =>
    let (exponent, text) := (readExponent text).getD (0, text)
    let value ← rounded? negative (whole ++ places) (exponent - places.length)
    some (value, text)
  | none =>
    let (exponent, text) ← readExponent text
    let value ← rounded? negative whole exponent
    some (value, text)

/-- `inf` or `nan`, with an optional sign -/
def readSpecial : Reader Binary64 := fun text =>
  let (negative, text) := readSign text
  match text with
  | 'i' :: 'n' :: 'f' :: rest => some (.infinite negative, rest)
  | 'n' :: 'a' :: 'n' :: rest => some (.nan, rest)
  | _ => none

end BlockProbe.Toml
