/-
What can be wrong with a table of settings, and how it is said.

A problem names what was found, what was wanted, and the dotted path of the entry it was found at.
-/
import BlockProbe.Settings.Level
import BlockProbe.Text.Quote
import BlockProbe.Toml.Value

namespace BlockProbe.Settings

open BlockProbe.Toml (Value)

inductive Wanted where
  | unsigned32
  | unsigned64
  | boolean
  | text
  | record (name : String)
deriving DecidableEq, Repr

def Wanted.name : Wanted → String
  | .unsigned32 => "u32"
  | .unsigned64 => "u64"
  | .boolean => "a boolean"
  | .text => "a string"
  | .record name => "struct " ++ name

/-- how a value is named when it is not what was wanted; a moment counts as its text -/
def found : Value → String
  | .text text => "string " ++ Text.quoted text
  | .integer value => "integer `" ++ toString value.toInt ++ "`"
  | .float value => "floating point `" ++ value.shown ++ "`"
  | .boolean value => "boolean `" ++ toString value ++ "`"
  | .moment moment => "string " ++ Text.quoted moment.text
  | .array _ => "sequence"
  | .table _ => "map"

/-- how a value is named where only an empty table would do -/
def kindName : Value → String
  | .text _ => "string"
  | .integer _ => "integer"
  | .float _ => "float"
  | .boolean _ => "boolean"
  | .moment _ => "datetime"
  | .array _ => "array"
  | .table _ => "table"

inductive Flaw where
  /-- a value of another kind -/
  | wrongKind (value : Value) (wanted : Wanted)
  /-- an integer out of range -/
  | outOfRange (value : Int64) (wanted : Wanted)
  /-- an array section with too many elements -/
  | tooLong (length : Nat)
  /-- a level that is no level's name -/
  | unknownLevel (name : String)
  /-- a level that is neither text nor a table -/
  | levelKind
  /-- a level given as a table without keys -/
  | levelEmpty
  /-- a level given as a table with several keys -/
  | levelCrowded
  /-- a level given as a table whose one value is not empty -/
  | levelPayload (value : Value)

def levelChoices : String :=
  String.intercalate ", " (Level.all.map fun level => "`" ++ level.name ++ "`")

def Flaw.message : Flaw → String
  | .wrongKind value wanted => "invalid type: " ++ found value ++ ", expected " ++ wanted.name
  | .outOfRange value wanted =>
    "invalid value: integer `" ++ toString value.toInt ++ "`, expected " ++ wanted.name
  | .tooLong length => "invalid length " ++ toString length ++ ", expected fewer elements in array"
  | .unknownLevel name => "unknown variant `" ++ name ++ "`, expected one of " ++ levelChoices
  | .levelKind => "invalid type: unit variant, expected string only"
  | .levelEmpty => "wanted exactly 1 element, found 0 elements"
  | .levelCrowded => "wanted exactly 1 element, more than 1 element"
  | .levelPayload value =>
    match value with
    | .table _ => "expected empty table"
    | .array _ => "expected empty array"
    | other => "expected table, found " ++ kindName other

structure Problem where
  flaw : Flaw
  path : List String

/-- what is printed about a problem, ending in a line end -/
def Problem.message (problem : Problem) : String :=
  problem.flaw.message ++ "\nin `" ++ String.intercalate "." problem.path ++ "`\n"

end BlockProbe.Settings
