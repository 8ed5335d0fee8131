/-
The first line that is printed about refused arguments.

The text is laid out for a terminal: what is wrong stands out in one colour, what can be typed in bold. It is printed
where nobody sees colours, so the sequences that switch them are taken out again, and with them every control sequence
that an argument itself holds. A sequence that is still open at the end of an argument reaches into the text behind it.
-/
import BlockProbe.Command.Arguments
import BlockProbe.Text.Stripped

namespace BlockProbe.Command

def plainAgain : String := "\x1b[0m"

/-- a text that is at fault, in quotes -/
def atFault (text : String) : String := "'\x1b[33m" ++ text ++ plainAgain ++ "'"

/-- a text that can be typed, in quotes -/
def literally (text : String) : String := "'\x1b[1m" ++ text ++ plainAgain ++ "'"

/-- what is said about a refusal, laid out for a terminal -/
def Refusal.layout : Refusal → String
  | .unexpectedArgument shown => "unexpected argument " ++ atFault shown ++ " found"
  | .unexpectedValue value name =>
    "unexpected value " ++ atFault value ++ " for " ++ literally name ++ " found; no more were expected"
  | .missingValue shown => "a value is required for " ++ literally shown ++ " but none was supplied"
  | .repeated shown => "the argument " ++ literally shown ++ " cannot be used multiple times"
  | .invalidValue value shown reason =>
    "invalid value " ++ atFault value ++ " for " ++ literally shown ++ ": " ++ reason

/-- where to find out what can be typed, laid out for a terminal -/
def hint : String := "For more information, try " ++ literally "--help" ++ "."

/-- the first line about a refusal, which says what is wrong, with the hint; the tips and the line on usage that may
stand between the two, and that depend on the options already read, are left out -/
def Refusal.complaint (refusal : Refusal) : String :=
  Text.stripped ("error: " ++ refusal.layout ++ "\n\n" ++ hint)

end BlockProbe.Command
