/-
Reading a configuration text.

`readTable` returns the table a text spells, or nothing when the text is not well formed. Arrays and inline tables may
be nested, and a key may be dotted, up to a fixed limit; a text has at most as many statements, and an array at most as
many items, as it has characters, which is what bounds the loops.
-/
import BlockProbe.Toml.Clock
import BlockProbe.Toml.Document
import BlockProbe.Toml.Text

namespace BlockProbe.Toml

/-- the greatest number of arrays and inline tables around a value, and of parts in a key -/
def nestingLimit : Nat := 79

def isBareKey (c : Char) : Bool :=
  ('a' ≤ c && c ≤ 'z') || ('A' ≤ c && c ≤ 'Z') || isDigit c || c == '_' || c == '-'

/-- one part of a key, bare or quoted -/
def readKeyPart : Reader String := fun text =>
  let bare := text.takeWhile isBareKey
  if bare.isEmpty then readLine text else some (String.ofList bare, text.dropWhile isBareKey)

/-- a key of at most `allowance` parts, with the blanks around it -/
def readKeyUpTo : Nat → Reader (List String)
  | 0, _ => none
  | allowance + 1, text => do
    let (part, rest) ← readKeyPart (skipBlanks text)
    match skipBlanks rest with
    | '.' :: more =>
      let (parts, rest) ← readKeyUpTo allowance more
      some (part :: parts, rest)
    | rest => some ([part], rest)

/-- a key, dotted or not, with the blanks around it -/
def readKey : Reader (List String) := readKeyUpTo nestingLimit

/-- the items of an array after its opening bracket or a comma, at most `allowance` of them -/
def readItems (item : Reader Value) : Nat → Reader (List Value)
  | 0, _ => none
  | allowance + 1, text =>
    match skipFiller false text with
    | ']' :: rest => some ([], rest)
    | text => do
      let (first, rest) ← item text
      match skipFiller false rest with
      | ']' :: rest => some ([first], rest)
      | ',' :: rest =>
        let (others, rest) ← readItems item allowance rest
        some (first :: others, rest)
      | _ => none

def readPair (value : Reader Value) : Reader (List String × Value) := fun text => do
  let (path, rest) ← readKey text
  let rest ← expect '=' rest
  let (value, rest) ← value (skipBlanks rest)
  some ((path, value), rest)

/-- the pairs of an inline table after its opening brace or a comma, at most `allowance` of them -/
def readPairs (value : Reader Value) : Nat → Reader (List (List String × Value))
  | 0, _ => none
  | allowance + 1, text => do
    let (first, rest) ← readPair value text
    match skipBlanks rest with
    | '\x7d' :: rest => some ([first], rest)
    | ',' :: rest =>
      let (others, rest) ← readPairs value allowance rest
      some (first :: others, rest)
    | _ => none

/-- an inline table after its opening brace -/
def readInline (value : Reader Value) : Reader Value := fun text =>
  match skipBlanks text with
  | '\x7d' :: rest => some (.table [], rest)
  | text => do
    let (pairs, rest) ← readPairs value text.length text
    let entries ← assembleInline pairs
    some (.table entries, rest)

/-- a value that begins like a number: a moment, a floating point number or an integer, in this order -/
def readNumeric : Reader Value := fun text =>
  (readMoment text).map (fun (moment, rest) => (.moment moment, rest))
    <|> (readDecimal text).map (fun (value, rest) => (.float value, rest))
    <|> (readSpecial text).map (fun (value, rest) => (.float value, rest))
    <|> (readInteger text).map (fun (value, rest) => (.integer value, rest))

/-- a value inside at most `nesting` further arrays and inline tables -/
def readValueWithin (nesting : Nat) : Reader Value
  | 't' :: 'r' :: 'u' :: 'e' :: rest => some (.boolean true, rest)
  | 'f' :: 'a' :: 'l' :: 's' :: 'e' :: rest => some (.boolean false, rest)
  | '[' :: rest =>
    match nesting with
    | 0 => none
    | nesting + 1 =>
      (readItems (readValueWithin nesting) (rest.length + 1) rest).map fun (items, rest) => (.array items, rest)
  | '\x7b' :: rest =>
    match nesting with
    | 0 => none
    | nesting + 1 => readInline (readValueWithin nesting) rest
  | '\x22' :: rest => (readText ('\x22' :: rest)).map fun (text, rest) => (.text text, rest)
  | '\x27' :: rest => (readText ('\x27' :: rest)).map fun (text, rest) => (.text text, rest)
  | text => readNumeric text

def readValue : Reader Value := readValueWithin nestingLimit

/-- one statement, without the end of its line -/
def readStatement : Reader Statement
  | '[' :: '[' :: rest => do
    let (path, rest) ← readKey rest
    let rest ← expect ']' rest
    let rest ← expect ']' rest
    some (.arrayHeader path, rest)
  | '[' :: rest => do
    let (path, rest) ← readKey rest
    let rest ← expect ']' rest
    some (.header path, rest)
  | text => do
    let ((path, value), rest) ← readPair readValue text
    some (.assignment path value, rest)

/-- all statements of a text, at most `allowance` lines of them -/
def readStatements : Nat → List Char → Option (List Statement)
  | 0, _ => none
  | allowance + 1, text =>
    match skipComment (skipBlanks text) with
    | [] => some []
    | '\n' :: rest => readStatements allowance rest
    | '\r' :: '\n' :: rest => readStatements allowance rest
    | text => do
      let (statement, rest) ← readStatement text
      let rest ← endOfLine? rest
      let others ← readStatements allowance rest
      some (statement :: others)

def byteOrderMark : Char := Char.ofNat 0xFEFF

def skipMark : List Char → List Char
  | [] => []
  | c :: rest => if c = byteOrderMark then rest else c :: rest

def readTable (text : String) : Option Table := do
  let text := skipMark text.toList
  let statements ← readStatements (text.length + 1) text
  assemble statements

end BlockProbe.Toml
