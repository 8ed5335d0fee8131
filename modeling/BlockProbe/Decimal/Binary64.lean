/-
Binary floating point of 64 bits, in exact integer arithmetic.

A finite value is `mantissa * 2 ^ exponent` with the mantissa below `2 ^ 53` and the exponent between -1074 and 971.

- `ofDecimal`: the value nearest to `digits * 10 ^ scale`, ties to the even mantissa. A decimal exponent far outside
  the range is settled by the number of digits alone, so no huge power is ever formed.
- `shortest`: the fewest decimal digits that `ofDecimal` reads back as the same value, the closest when two do.
- `shown`: the value in positional notation, always with a decimal point.
-/

namespace BlockProbe.Decimal

/-- a binary64 value; zeros have a sign too -/
inductive Binary64 where
  | nan
  | infinite (negative : Bool)
  | finite (negative : Bool) (mantissa : Nat) (exponent : Int)
deriving DecidableEq, Repr

namespace Binary64

/-- the exponent of the smallest step between two values -/
def leastExponent : Int := -1074

/-- the exponent of the largest finite value, its mantissa having 53 bits -/
def greatestExponent : Int := 971

/-- `base ^ e` as a factor above and below the line -/
def powerOf (base : Nat) (e : Int) : Nat × Nat :=
  if 0 ≤ e then (base.pow e.toNat, 1) else (1, base.pow (-e).toNat)

/-- the largest `e` with `2 ^ e` not above the fraction -/
def binaryMagnitude (above below : Nat) : Int :=
  let guess : Int := (Nat.log2 above : Int) - (Nat.log2 below : Int)
  let (up, down) := powerOf 2 guess
  if below * up ≤ above * down then guess else guess - 1

/-- division rounded to the nearest, ties to even -/
def roundedQuotient (above below : Nat) : Nat :=
  let quotient := above / below
  let twice := 2 * (above % below)
  if twice > below || (twice == below && quotient % 2 == 1) then quotient + 1 else quotient

/-- the value nearest to a positive fraction -/
def ofFraction (negative : Bool) (above below : Nat) : Binary64 :=
  let exponent := max leastExponent (binaryMagnitude above below - 52)
  let (up, down) := powerOf 2 exponent
  let mantissa := roundedQuotient (above * down) (below * up)
  let (mantissa, exponent) :=
    if mantissa = Nat.pow 2 53 then (Nat.pow 2 52, exponent + 1) else (mantissa, exponent)
  if exponent > greatestExponent then .infinite negative else .finite negative mantissa exponent

def digitCount (n : Nat) : Nat := (Nat.toDigits 10 n).length

/-- the value nearest to `digits * 10 ^ scale` -/
def ofDecimal (negative : Bool) (digits : Nat) (scale : Int) : Binary64 :=
  if digits = 0 then .finite negative 0 leastExponent
  else
    let magnitude := (digitCount digits : Int) + scale
    if magnitude > 310 then .infinite negative
    else if magnitude < -330 then .finite negative 0 leastExponent
    else
      let (up, down) := powerOf 10 scale
      ofFraction negative (digits * up) down

/-- a positive finite value as a fraction -/
def fraction (mantissa : Nat) (exponent : Int) : Nat × Nat :=
  let (up, down) := powerOf 2 exponent
  (mantissa * up, down)

/-- the number of digits before the point, negative when zeros follow it -/
def decimalMagnitude (above below : Nat) : Int :=
  (digitCount (above * Nat.pow 10 400 / below) : Int) - 400

/-- of the two decimals of `count` digits around the value, the closest that reads back as it, the upper one in a tie -/
def candidate? (mantissa : Nat) (exponent : Int) (count : Nat) : Option (Nat × Int) :=
  let (above, below) := fraction mantissa exponent
  let scale := decimalMagnitude above below - count
  let (up, down) := powerOf 10 scale
  let floor := above * down / (below * up)
  let remainder := above * down % (below * up)
  let same (digits : Nat) : Bool := ofDecimal false digits scale == .finite false mantissa exponent
  let floorFits := floor != 0 && same floor
  let ceilingFits := same (floor + 1)
  if floorFits && (!ceilingFits || 2 * remainder < below * up) then some (floor, scale)
  else if ceilingFits then
    some (if floor + 1 = Nat.pow 10 count then (1, scale + count) else (floor + 1, scale))
  else none

/-- the first count of digits from `count` on that determines the value, within `allowance` tries -/
def shortestFrom (mantissa : Nat) (exponent : Int) (count : Nat) : Nat → Nat × Int
  | 0 => (mantissa, 0)
  | allowance + 1 =>
    match candidate? mantissa exponent count with
    | some found => found
    | none => shortestFrom mantissa exponent (count + 1) allowance

/-- the shortest decimal of a positive finite value; 17 digits always suffice -/
def shortest (mantissa : Nat) (exponent : Int) : Nat × Int :=
  shortestFrom mantissa exponent 1 17

/-- `digits * 10 ^ scale` written out, with at least one digit on either side of the point -/
def positional (digits : Nat) (scale : Int) : String :=
  let spelled := Nat.toDigits 10 digits
  let zeros (n : Nat) := List.replicate n '0'
  if 0 ≤ scale then String.ofList (spelled ++ zeros scale.toNat ++ ['.', '0'])
  else
    let places := (-scale).toNat
    if places < spelled.length then
      let whole := spelled.length - places
      String.ofList (spelled.take whole ++ ['.'] ++ spelled.drop whole)
    else String.ofList (['0', '.'] ++ zeros (places - spelled.length) ++ spelled)

def shown : Binary64 → String
  | .nan => "NaN"
  | .infinite negative => if negative then "-inf" else "inf"
  | .finite negative mantissa exponent =>
    let size :=
      if mantissa = 0 then "0.0"
      else
        let (digits, scale) := shortest mantissa exponent
        positional digits scale
    if negative then "-" ++ size else size

end Binary64

end BlockProbe.Decimal
