/-
Patterns.

A pattern is a row of atoms, sets in brackets and groups, any of which may be repeated with `?`, `*` or `+`, and `|`
separates alternatives. A group may have a name, which no other group has, or switches, which are in force up to its
end; switches without a group are in force up to the end of the group they stand in. Nothing looks ahead or behind, and
nothing may nest deeper than `nestingLimit`.

`isPattern` says whether a text is a pattern. A repetition with a count needs a closing brace, which never stands in
these texts, so an opening one outside brackets is refused.
-/
import BlockProbe.Pattern.Brackets
import BlockProbe.Text.Word

namespace BlockProbe.Pattern

def nestingLimit : Nat := 250

structure Surrounding where
  switches : Switches
  items : Items
  branches : Option Nat
deriving DecidableEq, Repr

/-- a pattern read so far -/
structure Reading where
  switches : Switches := {}
  /-- the row in progress -/
  items : Items := {}
  /-- the depth of the last item, if that can be repeated -/
  last : Option Nat := none
  /-- the depth of the deepest alternative before the row, if there is one -/
  branches : Option Nat := none
  outer : List Surrounding := []
  /-- the names of groups -/
  names : List (List Char) := []
deriving DecidableEq, Repr

/-- the depth of a group's inside -/
def Reading.nesting (reading : Reading) : Nat :=
  match reading.branches with
  | none => reading.items.nesting
  | some depth => max depth reading.items.nesting + 1

/-- one more item of this depth, which can be repeated -/
def Reading.add (reading : Reading) (depth : Nat) : Reading :=
  { reading with items := reading.items.add depth, last := some depth }

def Reading.enter (reading : Reading) (switches : Switches) : Reading :=
  { switches
    names := reading.names
    outer :=
      { switches := reading.switches, items := reading.items, branches := reading.branches } :: reading.outer }

def Reading.leave (reading : Reading) : Option Reading :=
  match reading.outer with
  | [] => none
  | around :: outer =>
    let depth := reading.nesting + 1
    some {
      switches := around.switches
      items := around.items.add depth
      last := some depth
      branches := around.branches
      outer
      names := reading.names }

/-- behind `|` -/
def Reading.branch (reading : Reading) : Reading :=
  { reading with
    items := {}
    last := none
    branches := some (max (reading.branches.getD 0) reading.items.nesting) }

def Reading.repeatLast (reading : Reading) : Option Reading :=
  reading.last.map fun depth =>
    { reading with items := reading.items.deepen (depth + 1), last := some (depth + 1) }

/-- a character that a group's name may begin with -/
def beginsName (c : Char) : Bool := c == '_' || Text.isLetter c

def isNameChar (c : Char) : Bool := c == '_' || c == '.' || c == '[' || c == ']' || Text.isWordChar c

def isName : List Char → Bool
  | [] => false
  | c :: rest => beginsName c && rest.all isNameChar

/-- into a group with a name, which ends with `>` -/
def Reading.enterNamed (reading : Reading) (text : List Char) : Option (Reading × List Char) :=
  let name := text.takeWhile (· != '>')
  match text.drop name.length with
  | [] => none
  | _ :: rest =>
    if isName name && !reading.names.contains name then
      some ({ reading with names := name :: reading.names }.enter reading.switches, rest)
    else none

/-- into a group with switches, or past switches without a group -/
def Reading.switch (reading : Reading) (text : List Char) : Option (Reading × List Char) := do
  let (letters, rest) ← readLetters [] text
  let switches := reading.switches.set true letters
  match rest with
  | ':' :: rest => some (reading.enter switches, rest)
  | ')' :: rest =>
    if letters.isEmpty then none
    else some ({ reading with switches, items := reading.items.add 0, last := none }, rest)
  | _ => none

/-- what follows an opening parenthesis -/
def Reading.open (reading : Reading) (text : List Char) : Option (Reading × List Char) :=
  match reading.switches.skip text with
  | '?' :: '=' :: _ => none
  | '?' :: '!' :: _ => none
  | '?' :: '<' :: '=' :: _ => none
  | '?' :: '<' :: '!' :: _ => none
  | '?' :: 'P' :: '<' :: rest => reading.enterNamed rest
  | '?' :: '<' :: rest => reading.enterNamed rest
  | '?' :: rest => reading.switch rest
  | rest => some (reading.enter reading.switches, rest)

def plainAtom (c : Char) : Atom :=
  if c == '.' then .any else if c == '^' || c == '$' then .anchor else .literal c false

/-- take an atom, if it may stand here -/
def Reading.take (reading : Reading) (atom : Atom) : Option Reading :=
  if atom.stands reading.switches then some (reading.add 0) else none

/-- take the next part of a pattern, which begins with the character -/
def Reading.step (reading : Reading) (c : Char) (rest : List Char) : Option (Reading × List Char) :=
  if c == '(' then reading.open rest
  else if c == ')' then reading.leave.map fun reading => (reading, rest)
  else if c == '|' then some (reading.branch, rest)
  else if c == '?' || c == '*' || c == '+' then
    reading.repeatLast.map fun reading =>
      match rest with
      | '?' :: rest => (reading, rest)
      | _ => (reading, rest)
  else if c == '\x7b' then none
  else if c == '[' then
    (readBrackets reading.switches rest).map fun (depth, rest) => (reading.add depth, rest)
  else if c == '\\' then do
    let (atom, rest) ← readEscape reading.switches rest
    let reading ← reading.take atom
    some (reading, rest)
  else (reading.take (plainAtom c)).map fun reading => (reading, rest)

/-- take all parts of a pattern, at most `allowance` of them -/
def Reading.run : Nat → Reading → List Char → Option Reading
  | 0, _, _ => none
  | allowance + 1, reading, text =>
    match reading.switches.skip text with
    | [] => some reading
    | c :: rest => do
      let (reading, rest) ← reading.step c rest
      reading.run allowance rest

def isPattern (text : String) : Bool :=
  match Reading.run (text.length + 1) {} text.toList with
  | some reading => reading.outer.isEmpty && reading.nesting ≤ nestingLimit
  | none => false

end BlockProbe.Pattern
