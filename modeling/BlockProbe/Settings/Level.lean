/-
Log levels, from the fewest records to the most.

A level is named in lower case. Where an operator types one, upper-case ASCII letters and the spelling `warning` are
accepted too; a configuration file must use the five names as they are.
-/

namespace BlockProbe

inductive Level where
  | error
  | warn
  | info
  | debug
  | trace
deriving DecidableEq, Repr

namespace Level

def name : Level → String
  | .error => "error"
  | .warn => "warn"
  | .info => "info"
  | .debug => "debug"
  | .trace => "trace"

/-- all levels, in the order they are listed to the operator -/
def all : List Level := [.error, .warn, .info, .debug, .trace]

/-- how many levels are at least as severe; a record is shown at a level of at least its own rank -/
def rank : Level → Nat
  | .error => 1
  | .warn => 2
  | .info => 3
  | .debug => 4
  | .trace => 5

def ofName? (text : String) : Option Level := all.find? fun level => level.name == text

/-- the level an operator types; the error is the message to print -/
def parse (text : String) : Except String Level :=
  match text.toLower with
  | "error" => .ok .error
  | "warn" => .ok .warn
  | "warning" => .ok .warn
  | "info" => .ok .info
  | "debug" => .ok .debug
  | "trace" => .ok .trace
  | other => .error ("unknown log level: " ++ other)

end Level

end BlockProbe
