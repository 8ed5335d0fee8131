/-
Sets of characters in brackets.

A set is a row of characters, ranges, sorts, named sets such as `[:alpha:]` and further sets in brackets, and `&&`,
`--` and `~~` between two rows combine them from the left. A dash that opens a set, or stands before the closing
bracket, is a character, and so is a closing bracket that opens one.

`readBrackets` returns how deep the set nests.
-/
import BlockProbe.Pattern.Atom
import BlockProbe.Pattern.Nesting

namespace BlockProbe.Pattern

def setNames : List String :=
  ["alnum", "alpha", "ascii", "blank", "cntrl", "digit", "graph", "lower", "print", "punct", "space", "upper", "word",
    "xdigit"]

/-- a named set behind its opening bracket: is it negated? -/
def namedSet? (text : List Char) : Option (Bool × List Char) :=
  match text with
  | ':' :: text =>
    let (negated, text) := match text with
      | '^' :: rest => (true, rest)
      | _ => (false, text)
    let name := text.takeWhile (· != ':')
    match text.drop name.length with
    | ':' :: ']' :: rest => if setNames.contains (String.ofList name) then some (negated, rest) else none
    | _ => none
  | _ => none

/-- may a named set stand here? -/
def Switches.allowsNamed (switches : Switches) (negated : Bool) : Bool :=
  if switches.unicode then !switches.anyCase else !negated

/-- a set read so far -/
structure OpenSet where
  items : Items := {}
  /-- the depth of what is left of the last operator -/
  left : Option Nat := none
deriving DecidableEq, Repr

/-- the depth of what a set holds -/
def OpenSet.nesting (set : OpenSet) : Nat :=
  match set.left with
  | none => set.items.nesting
  | some left => max left set.items.nesting + 1

/-- the set with one more item of this depth -/
def OpenSet.add (set : OpenSet) (depth : Nat) : OpenSet := { set with items := set.items.add depth }

def OpenSet.combine (set : OpenSet) : OpenSet := { items := {}, left := some set.nesting }

/-- dashes, or a closing bracket, that open a set, at most `allowance` of them -/
def readOpening (switches : Switches) : Nat → Items → List Char → Option (Items × List Char)
  | 0, _, _ => none
  | _ + 1, _, [] => none
  | allowance + 1, items, c :: rest =>
    if c == '-' then
      if switches.allowsMember c then readOpening switches allowance (items.add 0) (switches.skip rest) else none
    else if c == ']' && items.count == 0 then
      if switches.allowsMember c then some (items.add 0, switches.skip rest) else none
    else some (items, c :: rest)

/-- the opening of a set behind its bracket; a negated set of bytes would match parts of characters -/
def openSet (switches : Switches) (text : List Char) : Option (OpenSet × List Char) := do
  let text := switches.skip text
  let (negated, text) := match text with
    | '^' :: rest => (true, switches.skip rest)
    | _ => (false, text)
  if negated && !switches.unicode then none
  else do
    let (items, rest) ← readOpening switches (text.length + 1) {} text
    some ({ items }, rest)

/-- one end of a range, or an item of its own -/
def readMember (switches : Switches) : List Char → Option (Atom × List Char)
  | [] => none
  | '\\' :: rest => readEscape switches rest
  | c :: rest => some (.literal c false, rest)

def isRange (switches : Switches) (first last : Atom) : Bool :=
  match first, last with
  | .literal low _, .literal high _ => low ≤ high && switches.allowsMember low && switches.allowsMember high
  | _, _ => false

/-- a range or a single item: the text behind it -/
def readRange (switches : Switches) (text : List Char) : Option (List Char) := do
  let (first, rest) ← readMember switches text
  let rest := switches.skip rest
  match rest with
  | '-' :: more =>
    let next := switches.peek more
    if next = some ']' ∨ next = some '-' then
      if first.standsInBrackets switches then some rest else none
    else
      let (last, rest) ← readMember switches (switches.skip more)
      if isRange switches first last then some rest else none
  | _ => if first.standsInBrackets switches then some rest else none

/-- a set behind its opening, with the sets around it: its depth; at most `allowance` items -/
def readSet (switches : Switches) : Nat → OpenSet → List OpenSet → List Char → Option (Nat × List Char)
  | 0, _, _, _ => none
  | allowance + 1, set, outer, text =>
    match switches.skip text with
    | [] => none
    | '[' :: rest =>
      match namedSet? rest with
      | some (negated, rest) =>
        if switches.allowsNamed negated then readSet switches allowance (set.add 0) outer rest else none
      | none => do
        let (inner, rest) ← openSet switches rest
        readSet switches allowance inner (set :: outer) rest
    | ']' :: rest =>
      match outer with
      | [] => some (set.nesting + 1, rest)
      | around :: outer => readSet switches allowance (around.add (set.nesting + 1)) outer rest
    | '&' :: '&' :: rest => readSet switches allowance set.combine outer rest
    | '-' :: '-' :: rest => readSet switches allowance set.combine outer rest
    | '~' :: '~' :: rest => readSet switches allowance set.combine outer rest
    | text => do
      let rest ← readRange switches text
      readSet switches allowance (set.add 0) outer rest

/-- a set behind its opening bracket: its depth -/
def readBrackets (switches : Switches) (text : List Char) : Option (Nat × List Char) := do
  let (set, rest) ← openSet switches text
  readSet switches (rest.length + 1) set [] rest

end BlockProbe.Pattern
