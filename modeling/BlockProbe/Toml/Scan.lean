/-
The characters of a configuration text and what may stand between its values.

A reader takes what it recognises from the front of the text and returns it with the rest, or nothing when the text
does not begin that way. Blanks are spaces and tabs; a line ends in LF or CRLF; a comment runs from `#` to the end of
its line and may hold any character but the control characters (a tab is allowed).
-/

namespace BlockProbe.Toml

/-- what is recognised at the front of a text, and the rest of it -/
abbrev Reader (α : Type) := List Char → Option (α × List Char)

def isBlank (c : Char) : Bool := c == ' ' || c == '\t'

/-- characters that may stand for themselves in text and comments: a tab, and all but the control characters -/
def isPlain (c : Char) : Bool := c == '\t' || (' ' ≤ c && c ≤ '~') || 0x80 ≤ c.toNat

def isDigit (c : Char) : Bool := '0' ≤ c && c ≤ '9'

def skipBlanks (text : List Char) : List Char := text.dropWhile isBlank

/-- what follows a line end -/
def lineEnd? : List Char → Option (List Char)
  | '\n' :: rest => some rest
  | '\r' :: '\n' :: rest => some rest
  | _ => none

def skipComment : List Char → List Char
  | '#' :: rest => rest.dropWhile isPlain
  | text => text

/-- what follows a line that holds nothing more than blanks and a comment -/
def endOfLine? (text : List Char) : Option (List Char) :=
  match skipComment (skipBlanks text) with
  | [] => some []
  | rest => lineEnd? rest

/-- drop blanks, line ends and comments, as between the items of an array -/
def skipFiller (inComment : Bool) : List Char → List Char
  | [] => []
  | '\n' :: rest => skipFiller false rest
  | '\r' :: '\n' :: rest => skipFiller false rest
  | c :: rest =>
    if inComment then (if isPlain c then skipFiller true rest else c :: rest)
    else if c == '#' then skipFiller true rest
    else if isBlank c then skipFiller false rest
    else c :: rest

/-- the rest of the text after one given character -/
def expect (c : Char) : List Char → Option (List Char)
  | head :: rest => if head = c then some rest else none
  | [] => none

/-- exactly `count` decimal digits, as a number -/
def fixedDigits (count : Nat) (text : List Char) : Option (Nat × List Char) :=
  let digits := text.take count
  if digits.length = count ∧ digits.all isDigit then
    some (digits.foldl (fun n c => n * 10 + (c.toNat - '0'.toNat)) 0, text.drop count)
  else none

end BlockProbe.Toml
