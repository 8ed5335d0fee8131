/-
Reading quoted text.

Text stands between double or single quotes, on one line or, with the quotes tripled, over several. Only double quotes
know escapes. In a block of several lines a line end right after the opening quotes is dropped, every other line end
reads as LF, a backslash at the end of a line swallows all white space up to the next character, and one or two quotes
may stand right before the closing three.
-/
import BlockProbe.Toml.Number

namespace BlockProbe.Toml

def doubleQuote : Char := '\x22'

def singleQuote : Char := '\x27'

/-- the character that `count` hexadecimal digits name -/
def codePoint? (count : Nat) (text : List Char) : Option Char :=
  let digits := text.take count
  let code := valueOf 16 digits
  if digits.length = count ∧ digits.all (isDigitOf 16) ∧ code.isValidChar then some (Char.ofNat code) else none

/-- what follows a backslash: the character meant and how many characters spell it -/
def escapeAt? : List Char → Option (Char × Nat)
  | 'b' :: _ => some ('\x08', 1)
  | 't' :: _ => some ('\t', 1)
  | 'n' :: _ => some ('\n', 1)
  | 'f' :: _ => some ('\x0c', 1)
  | 'r' :: _ => some ('\r', 1)
  | '\x22' :: _ => some ('\x22', 1)
  | '\\' :: _ => some ('\\', 1)
  | 'u' :: rest => (codePoint? 4 rest).map fun c => (c, 5)
  | 'U' :: rest => (codePoint? 8 rest).map fun c => (c, 9)
  | _ => none

/-- the inside of text on one line: `skip` characters are still part of an escape, `taken` is the text so far in
reverse -/
def lineBody (quote : Char) (skip : Nat) (taken : List Char) : Reader String
  | [] => none
  | c :: rest =>
    match skip with
    | more + 1 => lineBody quote more taken rest
    | 0 =>
      if c = quote then some (String.ofList taken.reverse, rest)
      else if c = '\\' ∧ quote = doubleQuote then
        match escapeAt? rest with
        | some (meant, used) => lineBody quote used (meant :: taken) rest
        | none => none
      else if isPlain c then lineBody quote 0 (c :: taken) rest
      else none

/-- where the inside of a block stands: in text, in an escape, or after a backslash that ended a line -/
inductive BlockState where
  | plain
  | skipping (left : Nat)
  | swallowing
deriving DecidableEq, Repr

/-- the inside of a block, `taken` being the text so far in reverse -/
def blockBody (quote : Char) (state : BlockState) (taken : List Char) : Reader String
  | [] => none
  | c :: rest =>
    match state with
    | .skipping (more + 1) => blockBody quote (.skipping more) taken rest
    | state =>
      let swallowing := state == .swallowing
      if swallowing ∧ isBlank c then blockBody quote .swallowing taken rest
      else if c = '\n' then
        blockBody quote state (if swallowing then taken else '\n' :: taken) rest
      else if c = '\r' then
        if rest.head? = some '\n' then blockBody quote state taken rest else none
      else if c = quote then
        let run := 1 + (rest.takeWhile (· == quote)).length
        if run < 3 then blockBody quote .plain (quote :: taken) rest
        else
          let extra := min (run - 3) 2
          some (String.ofList (List.replicate extra quote ++ taken).reverse, rest.drop (2 + extra))
      else if c = '\\' ∧ quote = doubleQuote then
        if (lineEnd? (skipBlanks rest)).isSome then blockBody quote .swallowing taken rest
        else
          match escapeAt? rest with
          | some (meant, used) => blockBody quote (.skipping used) (meant :: taken) rest
          | none => none
      else if isPlain c then blockBody quote .plain (c :: taken) rest
      else none

def readBlock (quote : Char) : Reader String := fun text =>
  blockBody quote .plain [] ((lineEnd? text).getD text)

def readLine : Reader String
  | '\x22' :: rest => lineBody doubleQuote 0 [] rest
  | '\x27' :: rest => lineBody singleQuote 0 [] rest
  | _ => none

/-- quoted text of any form, quotes included -/
def readText : Reader String
  | '\x22' :: '\x22' :: '\x22' :: rest => readBlock doubleQuote rest
  | '\x27' :: '\x27' :: '\x27' :: rest => readBlock singleQuote rest
  | text => readLine text

end BlockProbe.Toml
