/-
What is left of a text when the control sequences for a terminal are taken out.

A sequence begins with ESC. `[` after it begins a control sequence, which ends with a letter or the like; `]` begins a
command, which ends with BEL; `X`, `^` and `_` begin data that ends with the byte 9C, and `P` a head of parameters and
marks that such data follows. A head that is not well formed counts as data too. Control characters outside a sequence
are taken out as well, white space is kept.

White space that comes while a sequence is still open takes the text up again, and it goes on as text up to the next
control character; only then is the sequence gone on with. So the reader is always either in the text or skipping,
and remembers which passage it was skipping.
-/
import BlockProbe.Text.Utf8

namespace BlockProbe.Text

def escapeChar : Char := '\x1b'

/-- what is being skipped -/
inductive Passage where
  /-- single control characters: no sequence is open -/
  | outside
  /-- ESC and nothing else -/
  | escape
  /-- ESC and marks that a final character follows -/
  | marks
  /-- the parameters of a control sequence -/
  | control
  /-- before the data of a device: nothing yet -/
  | device
  /-- before the data of a device: its parameters -/
  | deviceParameters
  /-- before the data of a device: marks -/
  | deviceMarks
  /-- a command, up to BEL -/
  | command
  /-- data, up to the byte 9C -/
  | data
deriving DecidableEq, Repr

/-- a control character, DEL apart -/
def isControl (c : Char) : Bool := c.toNat < 0x20

/-- the white space that is kept although it is a control character -/
def isLayout (c : Char) : Bool := c == '\t' || c == '\n' || c == '\x0c' || c == '\r'

/-- a character that stands in a text for itself -/
def isPlainText (c : Char) : Bool := !isControl c && c != '\x7f'

/-- the passage that the character after ESC begins -/
def Passage.opened (c : Char) : Passage :=
  if c.toNat < 0x30 then .marks
  else if c == '[' then .control
  else if c == ']' then .command
  else if c == 'P' then .device
  else if c == 'X' || c == '^' || c == '_' then .data
  else .outside

/-- does the character hold the byte that ends data? -/
def endsData (c : Char) : Bool := 0x80 ≤ c.toNat && (encode c.toString).contains 0x9C

/-- the passage after a character that is skipped or shown in it -/
def Passage.after (passage : Passage) (c : Char) : Passage :=
  if c == escapeChar then .escape
  else if c == '\x18' || c == '\x1a' then .outside
  else if passage == .command && c == '\x07' then .outside
  else if passage == .data && endsData c then .outside
  else if !isPlainText c || 0x80 ≤ c.toNat then passage
  else match passage with
    | .outside => .outside
    | .escape => .opened c
    | .marks => if c.toNat < 0x30 then .marks else .outside
    | .control => if c.toNat < 0x40 then .control else .outside
    | .device =>
      if c.toNat < 0x30 then .deviceMarks else if c.toNat < 0x40 then .deviceParameters else .data
    | .deviceParameters =>
      if c.toNat < 0x30 then .deviceMarks else if c.toNat < 0x3C then .deviceParameters else .data
    | .deviceMarks => if c.toNat < 0x30 then .deviceMarks else .data
    | .command => .command
    | .data => .data

/-- is a character shown that comes while a passage is being skipped? -/
def Passage.shows (passage : Passage) (c : Char) : Bool :=
  match passage with
  | .outside => isPlainText c || isLayout c
  | .escape => isLayout c
  | .marks => isLayout c
  | .control => isLayout c
  | .device => false
  | .deviceParameters => false
  | .deviceMarks => false
  | .command => false
  | .data => false

/-- how far a text is read, and what of it is left, last character first -/
structure Stripping where
  inText : Bool := false
  passage : Passage := .outside
  left : List Char := []

/-- take a character that is not part of the text so far -/
def Stripping.skip (reading : Stripping) (c : Char) : Stripping :=
  let passage := reading.passage.after c
  if reading.passage.shows c then { inText := true, passage, left := c :: reading.left }
  else { reading with inText := false, passage }

/-- take a character -/
def Stripping.take (reading : Stripping) (c : Char) : Stripping :=
  if reading.inText && (isPlainText c || isLayout c) then
    { reading with
      passage := if 0x80 ≤ c.toNat then .outside else reading.passage
      left := c :: reading.left }
  else reading.skip c

/-- the text without control sequences and control characters -/
def stripped (text : String) : String :=
  String.ofList (text.toList.foldl Stripping.take {}).left.reverse

end BlockProbe.Text
