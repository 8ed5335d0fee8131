/-
Unsigned decimal numbers of at most 64 bits, as they are typed on a command line or in the environment.

- `readUnsigned`: one optional `+`, then one or more ASCII digits, any number of leading zeros.
- `Malformed`: the three ways a text can fail to be one, and what is printed for each.

The digits are folded from the left and the first offending character decides: a character that is no digit is
reported as such even when the digits before it already fill the range.
-/

namespace BlockProbe.Decimal

inductive Malformed where
  | empty
  | badDigit
  | tooLarge
deriving DecidableEq, Repr

def Malformed.message : Malformed → String
  | .empty => "cannot parse integer from empty string"
  | .badDigit => "invalid digit found in string"
  | .tooLarge => "number too large to fit in target type"

/-- the value of an ASCII digit -/
def digit? (c : Char) : Option Nat :=
  if '0' ≤ c ∧ c ≤ '9' then some (c.toNat - '0'.toNat) else none

/-- one more than the largest 64-bit value -/
def unsignedBound : Nat := UInt64.size

/-- fold digits into `value`, staying below the bound -/
def foldDigits (value : Nat) : List Char → Except Malformed Nat
  | [] => .ok value
  | c :: rest =>
    match digit? c with
    | none => .error .badDigit
    | some d =>
      if value * 10 + d < unsignedBound then foldDigits (value * 10 + d) rest else .error .tooLarge

/-- the number a list of characters spells -/
def readNatural : List Char → Except Malformed Nat
  | [] => .error .empty
  | ['+'] => .error .badDigit
  | '+' :: digits => foldDigits 0 digits
  | digits => foldDigits 0 digits

/-- an unsigned 64-bit number from its text, without trimming -/
def readUnsigned (text : String) : Except Malformed UInt64 :=
  (readNatural text.toList).map UInt64.ofNat

end BlockProbe.Decimal
