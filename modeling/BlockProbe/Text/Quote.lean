/-
A text in double quotes, with everything that would not show escaped.

The quote and the backslash are escaped with a backslash, NUL, tab, newline and carriage return have short forms, and
any other character that is not printable becomes its code point in hexadecimal between braces.
-/
import BlockProbe.Text.Printable

namespace BlockProbe.Text

/-- a code point in lower-case hexadecimal, without padding -/
def hexadecimal (code : Nat) : String := String.ofList (Nat.toDigits 16 code)

/-- one character as it stands inside double quotes -/
def escaped (c : Char) : String :=
  if c = '\x22' then "\\\""
  else if c = '\\' then "\\\\"
  else if c = '\n' then "\\n"
  else if c = '\r' then "\\r"
  else if c = '\t' then "\\t"
  else if c = '\x00' then "\\0"
  else if isPrintable c then c.toString
  else "\\u\x7b" ++ hexadecimal c.toNat ++ "\x7d"

def quoted (text : String) : String :=
  "\"" ++ String.join (text.toList.map escaped) ++ "\""

end BlockProbe.Text
