/-
Settings as a configuration text.

Every setting is written out, section by section. Text is written in the plainest form that can hold it: on one line
between double quotes if nothing needs an escape, else on one line between single quotes, else as a block between
tripled double quotes, else as a block between tripled single quotes. What no form can hold as it stands is escaped, in
a block if it has several lines. A block of several lines begins with a line end that is not part of it.

An interval too large for a configuration integer cannot be written.
-/
import BlockProbe.Settings.Basic

namespace BlockProbe.Settings

/-- the largest interval a configuration text can hold -/
def greatestWritable : Nat := 0x7FFFFFFFFFFFFFFF

def upperHexDigit (n : Nat) : Char := (Nat.digitChar n).toUpper

def unicodeEscape (code : Nat) : List Char :=
  ['\\', 'u', upperHexDigit (code / 4096 % 16), upperHexDigit (code / 256 % 16), upperHexDigit (code / 16 % 16),
    upperHexDigit (code % 16)]

/-- is the character a control character that only an escape can write? -/
def needsEscape (c : Char) : Bool := (c.toNat < 0x20 && c != '\t' && c != '\n') || c.toNat == 0x7F

/-- one character, other than the double quote, between double quotes; in a block a line end stands for itself -/
def printedChar (isBlock : Bool) (c : Char) : List Char :=
  if c = '\x08' then ['\\', 'b']
  else if c = '\t' then ['\\', 't']
  else if c = '\n' then (if isBlock then ['\n'] else ['\\', 'n'])
  else if c = '\x0c' then ['\\', 'f']
  else if c = '\r' then ['\\', 'r']
  else if c = '\\' then ['\\', '\\']
  else if needsEscape c then unicodeEscape c.toNat
  else [c]

/-- text between double quotes, `run` double quotes having just been written as they are; a block may hold two in a
row, a line none -/
def printedChars (isBlock : Bool) (run : Nat) : List Char → List Char
  | [] => []
  | c :: rest =>
    if c = '\x22' then
      if run < (if isBlock then 2 else 0) then c :: printedChars isBlock (run + 1) rest
      else '\\' :: c :: printedChars isBlock 0 rest
    else printedChar isBlock c ++ printedChars isBlock 0 rest

/-- the longest run of a character, the run in progress being `current` long -/
def longestRun (mark : Char) (current longest : Nat) : List Char → Nat
  | [] => longest
  | c :: rest =>
    if c = mark then longestRun mark (current + 1) (max longest (current + 1)) rest
    else longestRun mark 0 longest rest

inductive TextForm where
  | line
  | literalLine
  | block
  | literalBlock
deriving DecidableEq, Repr

def textForm (text : List Char) : TextForm :=
  let escapes := text.any needsEscape
  let backslashes := text.contains '\\'
  let lines := text.contains '\n'
  let double := longestRun '\x22' 0 0 text
  let single := longestRun '\x27' 0 0 text
  if !escapes && !backslashes && !lines && double == 0 then .line
  else if !escapes && !lines && single == 0 then .literalLine
  else if !escapes && !backslashes && double ≤ 2 then .block
  else if !escapes && single ≤ 2 then .literalBlock
  else if lines then .block
  else .line

/-- `inner` between `count` quotes on either side -/
def enclose (quote : Char) (count : Nat) (inner : List Char) : List Char :=
  List.replicate count quote ++ inner ++ List.replicate count quote

/-- the inside of a block, on lines of its own if it has several -/
def blockInner (text inner : List Char) : List Char := if text.contains '\n' then '\n' :: inner else inner

/-- text as it is written after the equals sign -/
def printedText (text : String) : List Char :=
  let text := text.toList
  match textForm text with
  | .line => enclose '\x22' 1 (printedChars false 0 text)
  | .literalLine => enclose '\x27' 1 text
  | .block => enclose '\x22' 3 (blockInner text (printedChars true 0 text))
  | .literalBlock => enclose '\x27' 3 (blockInner text text)

def printedHeading (name : String) : List Char := '[' :: name.toList ++ [']', '\n']

def printedLine (key : String) (value : List Char) : List Char :=
  key.toList ++ [' ', '=', ' '] ++ value ++ ['\n']

def printedBoolean (value : Bool) : List Char := (if value then "true" else "false").toList

def printedNumber (n : Nat) : List Char := Nat.toDigits 10 n

/-- every setting in its section -/
def printed (settings : Settings) : List Char :=
  printedHeading "probe"
    ++ printedLine "file_mode" (printedNumber settings.probe.fileMode.toNat)
    ++ printedLine "verify" (printedBoolean settings.probe.verify)
    ++ printedLine "sync" (printedBoolean settings.probe.sync)
    ++ '\n' :: printedHeading "heartbeat"
    ++ printedLine "interval_secs" (printedNumber settings.heartbeat.intervalSecs.toNat)
    ++ printedLine "message" (printedText settings.heartbeat.message)
    ++ '\n' :: printedHeading "log"
    ++ printedLine "level" (enclose '\x22' 1 settings.log.level.name.toList)

/-- the configuration text of settings, unless the interval is too large -/
def print? (settings : Settings) : Option String :=
  if settings.heartbeat.intervalSecs.toNat > greatestWritable then none
  else some (String.ofList (printed settings))

/-- the configuration text that spells out the defaults -/
def defaultText : String := (print? Settings.default).getD ""

end BlockProbe.Settings
