/-
The switches of a pattern.

A pattern may switch on that white space and comments between its parts are skipped (`x`), that the case of letters
does not count (`i`), or switch off that it is about characters and not about bytes (`u`). Other switches change what a
pattern matches but not whether it is one.
-/
import BlockProbe.Text.Blank

namespace BlockProbe.Pattern

structure Switches where
  /-- are white space and comments skipped? -/
  spaced : Bool := false
  /-- do letters stand for both their cases? -/
  anyCase : Bool := false
  /-- is the pattern about characters? -/
  unicode : Bool := true
deriving DecidableEq, Repr

/-- drop white space and comments, which run from `#` to the end of the line -/
def skipSpace (inComment : Bool) : List Char → List Char
  | [] => []
  | c :: rest =>
    if inComment then skipSpace (c != '\n') rest
    else if Text.isSpace c then skipSpace false rest
    else if c == '#' then skipSpace true rest
    else c :: rest

/-- drop what may stand between the parts of a pattern -/
def Switches.skip (switches : Switches) (text : List Char) : List Char :=
  if switches.spaced then skipSpace false text else text

/-- the first character that is not white space and not the first comment's mark -/
def glance (inComment : Bool) : List Char → Option Char
  | [] => none
  | c :: rest =>
    if Text.isSpace c then glance inComment rest
    else if c == '#' && !inComment then glance true rest
    else some c

/-- the character that a dash is followed by, as far as it tells a range from a mere dash -/
def Switches.peek (switches : Switches) (text : List Char) : Option Char :=
  if switches.spaced then (glance false text).or text.head? else text.head?

/-- the letters of the switches -/
def isSwitch (c : Char) : Bool := "imsUuRx".toList.contains c

/-- the letters and the dash up to `:` or `)`, each at most once and the dash not last -/
def readLetters (taken : List Char) : List Char → Option (List Char × List Char)
  | [] => none
  | c :: rest =>
    if c == ':' || c == ')' then
      if taken.head? = some '-' then none else some (taken.reverse, c :: rest)
    else if (isSwitch c || c == '-') && !taken.contains c then readLetters (c :: taken) rest
    else none

/-- the switches after some letters: on before the dash, off behind it -/
def Switches.set (switches : Switches) (value : Bool) : List Char → Switches
  | [] => switches
  | c :: rest =>
    if c == '-' then switches.set false rest
    else if c == 'x' then { switches with spaced := value }.set value rest
    else if c == 'i' then { switches with anyCase := value }.set value rest
    else if c == 'u' then { switches with unicode := value }.set value rest
    else switches.set value rest

end BlockProbe.Pattern
