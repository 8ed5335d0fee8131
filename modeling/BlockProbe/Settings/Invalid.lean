/-
Why settings are refused.

A file cannot be read, its text is not well formed, its table has a problem, or a value (from the environment, or of the
settings as a whole) is invalid. Each has its own opening words, so an operator sees at once which it was.
-/
import BlockProbe.Files.Fault
import BlockProbe.Settings.Basic
import BlockProbe.Settings.Problem

namespace BlockProbe.Settings

inductive Invalid where
  /-- settings that make no sense -/
  | unusable (reason : Unusable)
  /-- an environment variable that is no number, with its text as given -/
  | notNumber (name : String) (text : String)
  /-- an environment variable that is no truth value, with its text trimmed and in lower case -/
  | notBoolean (name : String) (text : String)
  /-- a level that is none; the message names it -/
  | level (message : String)
deriving DecidableEq, Repr

def Invalid.message : Invalid → String
  | .unusable reason => reason.message
  | .notNumber name text => name ++ ": not a number: " ++ text
  | .notBoolean name text => name ++ ": not a boolean: " ++ text
  | .level message => message

inductive LoadError where
  /-- a file that exists could not be read -/
  | unreadable (fault : Files.Fault)
  /-- a file is not a well-formed configuration text -/
  | malformed
  /-- the merged table does not give settings -/
  | misshapen (problem : Problem)
  /-- a value is invalid -/
  | invalid (reason : Invalid)

/-- what is printed about an error; of a malformed text only the opening words are fixed -/
def LoadError.message : LoadError → String
  | .unreadable fault => "IO error: " ++ fault.message
  | .malformed => "TOML parse error"
  | .misshapen problem => "TOML parse error: " ++ problem.message
  | .invalid reason => "invalid configuration: " ++ reason.message

end BlockProbe.Settings
