/-
Log records.

A record has a severity, the component that speaks, the module it comes from, a message and named fields. It is shown
on one line; a text is quoted, a value that has a display form of its own stands bare.
-/
import BlockProbe.Settings.Level
import BlockProbe.Text.Quote

namespace BlockProbe.Log

inductive Component where
  | cli
  | probe
  | signal
deriving DecidableEq, Repr

def Component.name : Component → String
  | .cli => "CLI"
  | .probe => "PROBE"
  | .signal => "SIGNAL"

/-- the module a record comes from -/
inductive Origin where
  | program
  | shutdown
  | io
deriving DecidableEq, Repr

/-- the name a filter knows a module by -/
def Origin.name : Origin → String
  | .program => "nvprobe"
  | .shutdown => "nvprobe::shutdown"
  | .io => "nvprobe_io"

inductive FieldValue where
  | text (words : String)
  | bare (words : String)
deriving DecidableEq, Repr

def FieldValue.shown : FieldValue → String
  | .text words => Text.quoted words
  | .bare words => words

structure Record where
  level : Level
  component : Component
  origin : Origin
  message : String
  fields : List (String × FieldValue)
deriving DecidableEq, Repr

def number (n : Nat) : FieldValue := .bare (toString n)

def boolean (value : Bool) : FieldValue := .bare (toString value)

/-- a level as it heads a record -/
def heading (level : Level) : String := level.name.toUpper

def shownField (field : String × FieldValue) : String := " " ++ field.1 ++ "=" ++ field.2.shown

def Record.shown (record : Record) : String :=
  heading record.level ++ " " ++ record.message ++
    String.join ((("component", .text record.component.name) :: record.fields).map shownField)

end BlockProbe.Log
