/-
Values once the whole text is read.

Until then a table holds its keys in the order of the text. `Value.settled` puts them in ascending order, and makes a
moment of every table that stands for one: a table whose first key is `momentKey` is the moment that its text gives,
whatever else it holds, and a text with such a table that gives no moment is not well formed. The outermost table never
stands for a moment, so it is settled by `settledEntries`.
-/
import BlockProbe.Toml.Clock
import BlockProbe.Toml.Value

namespace BlockProbe.Toml

/-- the key that makes a table stand for a moment -/
def momentKey : String := "$__toml_private_datetime"

/-- does a table with these entries stand for a moment? -/
def standsForMoment : List (String × Value) → Bool
  | (key, _) :: _ => key == momentKey
  | [] => false

/-- the moment that the first entry gives -/
def givenMoment? : List (String × Value) → Option Moment
  | (_, .text text) :: _ => momentOf? text
  | _ => none

mutual

/-- a value once the whole text is read -/
def Value.settled : Value → Option Value
  | .text text => some (.text text)
  | .integer value => some (.integer value)
  | .float value => some (.float value)
  | .boolean value => some (.boolean value)
  | .moment value => some (.moment value)
  | .array items => (settledItems items).map .array
  | .table entries =>
    if standsForMoment entries then (givenMoment? entries).map .moment
    else (settledEntries entries).map .table
termination_by structural value => value

def settledItems : List Value → Option (List Value)
  | [] => some []
  | item :: rest => do
    let item ← item.settled
    let rest ← settledItems rest
    some (item :: rest)
termination_by structural items => items

/-- the entries of a table once the whole text is read, in ascending key order -/
def settledEntries : List (String × Value) → Option Table
  | [] => some []
  | entry :: rest => do
    let (key, value) ← settledEntry entry
    let rest ← settledEntries rest
    some (Keyed.put key value rest)
termination_by structural entries => entries

def settledEntry : String × Value → Option (String × Value)
  | (key, value) => value.settled.map fun value => (key, value)
termination_by structural entry => entry

end

end BlockProbe.Toml
