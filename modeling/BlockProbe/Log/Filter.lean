/-
Which records are shown.

A filter is a list of directives. Of those that speak of a record the most specific decides: the one with the longer
module text, then one that names a field, then the later field name, and of two alike the later directive. A record no
directive speaks of is not shown.

A filter is written as directives separated by commas, and empty pieces count for nothing. A text with a piece that is
no directive is no filter.
-/
import BlockProbe.Log.Directive

namespace BlockProbe.Log

/-- the directives of a filter, in the order given -/
abbrev Filter := List Directive

/-- the filter that shows every module up to a level -/
def Filter.upTo (level : Level) : Filter := [{ greatest := some level }]

/-- how much a directive says about which modules it means -/
def Directive.weight (directive : Directive) : Nat :=
  match directive.modules with
  | none => 0
  | some modules => modules.utf8ByteSize + 1

/-- the name of the field a directive asks for -/
def Directive.fieldName (directive : Directive) : Option String := directive.field.map Condition.name

/-- does a field's name, if any, come before another? -/
def precedes : Option String → Option String → Bool
  | none, some _ => true
  | some name, some other => name < other
  | _, none => false

/-- is a directive less specific than another that speaks of the same record? -/
def Directive.yieldsTo (directive other : Directive) : Bool :=
  directive.weight < other.weight ||
    (directive.weight == other.weight && !precedes other.fieldName directive.fieldName)

/-- of two directives, the one that decides, the second being the later one -/
def stronger (best : Option Directive) (next : Directive) : Option Directive :=
  match best with
  | none => some next
  | some best => if best.yieldsTo next then some next else some best

/-- the directive that decides about a record -/
def Filter.deciding (filter : Filter) (record : Record) : Option Directive :=
  (filter.filter fun directive => directive.covers record).foldl stronger none

def Filter.admits (filter : Filter) (record : Record) : Bool :=
  match filter.deciding record with
  | some { greatest := some level, .. } => record.level.rank ≤ level.rank
  | _ => false

def Filter.select (filter : Filter) (records : List Record) : List Record := records.filter filter.admits

def Filter.parse (text : String) : Option Filter :=
  ((Text.split ',' text).filter fun piece => !piece.isEmpty).mapM Directive.parse

/-- the filter in force: the one asked for, if it is one, else everything up to a level -/
def Filter.inForce (asked : Option String) (level : Level) : Filter :=
  (asked.bind Filter.parse).getD (.upTo level)

end BlockProbe.Log
