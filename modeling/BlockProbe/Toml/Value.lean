/-
Configuration values and tables.

A table is a list of keys with their values in ascending key order, each key once. While a text is read its tables are
still in the order of the text; `Value.settled` puts them in theirs.
-/
import BlockProbe.Decimal.Binary64
import BlockProbe.Toml.Keyed
import BlockProbe.Toml.Moment

namespace BlockProbe.Toml

inductive Value where
  | text (text : String)
  | integer (value : Int64)
  | float (value : Decimal.Binary64)
  | boolean (value : Bool)
  | moment (value : Moment)
  | array (items : List Value)
  | table (entries : List (String × Value))

/-- keys with their values -/
abbrev Table := List (String × Value)

end BlockProbe.Toml
