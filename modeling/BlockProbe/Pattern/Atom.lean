/-
The smallest parts of a pattern.

An atom is a character, an assertion, or one of the sorts digit, space and word character, each with its opposite. What
an atom may be depends on the switches. There is no table of the cases of letters and none of the sorts for all scripts,
so a pattern about characters can use neither; and in a pattern about bytes nothing may match a part of a character.
-/
import BlockProbe.Pattern.Switches

namespace BlockProbe.Pattern

/-- the smallest parts of a pattern -/
inductive Atom where
  /-- a character, perhaps given as the two digits of a byte -/
  | literal (c : Char) (isByte : Bool)
  /-- any character -/
  | any
  /-- a place between or next to words -/
  | wordEdge
  /-- the beginning or the end of a line or of the text -/
  | anchor
  /-- digits, spaces or word characters, or all others -/
  | sort (negated : Bool)
deriving DecidableEq, Repr

/-- may a sort of characters be named? -/
def Switches.allowsSort (switches : Switches) (negated : Bool) : Bool := !switches.unicode && !negated

def Atom.stands (switches : Switches) : Atom → Bool
  | .literal c isByte => if switches.unicode then !switches.anyCase else !(isByte && 0x80 ≤ c.toNat)
  | .any => switches.unicode
  | .wordEdge => !switches.unicode
  | .anchor => true
  | .sort negated => switches.allowsSort negated

/-- may the character stand in brackets? -/
def Switches.allowsMember (switches : Switches) (c : Char) : Bool :=
  if switches.unicode then !switches.anyCase else c.toNat < 0x80

/-- may the atom stand in brackets? -/
def Atom.standsInBrackets (switches : Switches) : Atom → Bool
  | .literal c _ => switches.allowsMember c
  | .sort negated => switches.allowsSort negated
  | _ => false

def hexValue? (c : Char) : Option Nat :=
  if '0' ≤ c ∧ c ≤ '9' then some (c.toNat - '0'.toNat)
  else if 'a' ≤ c ∧ c ≤ 'f' then some (c.toNat - 'a'.toNat + 10)
  else if 'A' ≤ c ∧ c ≤ 'F' then some (c.toNat - 'A'.toNat + 10)
  else none

/-- so many hexadecimal digits after those that make `value`, and what may stand behind each -/
def readCode (switches : Switches) : Nat → Nat → List Char → Option (Nat × List Char)
  | 0, value, text => some (value, text)
  | _ + 1, _, [] => none
  | count + 1, value, c :: rest => do
    let digit ← hexValue? c
    readCode switches count (value * 16 + digit) (switches.skip rest)

/-- a character given by the digits of its code point -/
def readCoded (switches : Switches) (count : Nat) (isByte : Bool) (text : List Char) : Option (Atom × List Char) := do
  let (code, rest) ← readCode switches count 0 (switches.skip text)
  if code.isValidChar then some (.literal (Char.ofNat code) isByte, rest) else none

/-- an atom behind a backslash: ASCII marks stand for themselves, letters and digits do not -/
def readEscape (switches : Switches) : List Char → Option (Atom × List Char)
  | [] => none
  | c :: rest =>
    if c == 'x' then readCoded switches 2 true rest
    else if c == 'u' then readCoded switches 4 false rest
    else if c == 'U' then readCoded switches 8 false rest
    else if c == 'd' || c == 's' || c == 'w' then some (.sort false, rest)
    else if c == 'D' || c == 'S' || c == 'W' then some (.sort true, rest)
    else if c == 'b' || c == 'B' || c == '<' || c == '>' then some (.wordEdge, rest)
    else if c == 'A' || c == 'z' then some (.anchor, rest)
    else if c == 'a' then some (.literal '\x07' false, rest)
    else if c == 'f' then some (.literal '\x0c' false, rest)
    else if c == 't' then some (.literal '\t' false, rest)
    else if c == 'n' then some (.literal '\n' false, rest)
    else if c == 'r' then some (.literal '\r' false, rest)
    else if c == 'v' then some (.literal '\x0b' false, rest)
    else if c.toNat < 0x80 && !c.isAlphanum then some (.literal c false, rest)
    else none

end BlockProbe.Pattern
