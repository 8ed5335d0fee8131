/-
Laying one table over another.

Where both hold a table under the same key the two are overlaid in turn; anything else in the upper table replaces what
lies below it. Arrays are values like any other: they replace, they are never joined.
-/
import BlockProbe.Toml.Value

namespace BlockProbe.Toml

mutual

/-- `upper` laid over `base` -/
def overlay (base : Table) : List (String × Value) → Table
  | [] => base
  | entry :: rest => overlay (overlayEntry base entry) rest
termination_by structural upper => upper

def overlayEntry (base : Table) : String × Value → Table
  | (key, value) => Keyed.put key (overlayValue (Keyed.find? key base) value) base
termination_by structural entry => entry

/-- what is under a key once `upper` is laid over what was there -/
def overlayValue (below : Option Value) : Value → Value
  | .table upper =>
    match below with
    | some (.table base) => .table (overlay base upper)
    | _ => .table upper
  | .text text => .text text
  | .integer value => .integer value
  | .float value => .float value
  | .boolean value => .boolean value
  | .moment value => .moment value
  | .array items => .array items
termination_by structural upper => upper

end

end BlockProbe.Toml
