/-
Putting the statements of a configuration text together.

A text is a list of statements: `[table]` headers, `[[array]]` headers and `key = value` lines, the latter belonging to
the header before them. A table remembers how it came about, because that decides what may still be added to it:

- a table that a longer header only passed through is `implied`, and may once be opened by a header of its own;
- a table made by a dotted key is `dotted`: dotted keys may add to it, a header may not open it;
- a table opened by a header is `opened`: no second header and no dotted key from above may enter it.

A key is given a value once. Paths that pass through an array of tables mean its last element. Keys stay in the order
in which they are first met, but an implied table that is opened moves to the end of the table it is in.
-/
import BlockProbe.Toml.Settled

namespace BlockProbe.Toml

inductive Statement where
  | header (path : List String)
  | arrayHeader (path : List String)
  | assignment (path : List String) (value : Value)

/-- how a table came about -/
inductive Origin where
  | implied
  | dotted
  | opened
deriving DecidableEq, Repr

/-- what is under a key while the text is read; an array of tables keeps its earlier elements last to first -/
inductive Entry where
  | value (value : Value)
  | table (origin : Origin) (entries : List (String × Entry))
  | tables (earlier : List (List (String × Entry))) (last : List (String × Entry))

/-- keys with their entries -/
abbrev Entries := List (String × Entry)

mutual

def Entry.toValue : Entry → Value
  | .value value => value
  | .table _ entries => .table (entriesToTable entries)
  | .tables earlier last => .array (.reverse (.table (entriesToTable last) :: tablesToValues earlier))
termination_by structural entry => entry

def entriesToTable : List (String × Entry) → List (String × Value)
  | [] => []
  | entry :: rest => keyedToValue entry :: entriesToTable rest
termination_by structural entries => entries

def keyedToValue : String × Entry → String × Value
  | (key, entry) => (key, entry.toValue)
termination_by structural entry => entry

def tablesToValues : List (List (String × Entry)) → List Value
  | [] => []
  | entries :: rest => .table (entriesToTable entries) :: tablesToValues rest
termination_by structural tables => tables

end

/-- change the table at the end of a header's path, making implied tables on the way -/
def within (change : Entries → Option Entries) : List String → Entries → Option Entries
  | [], entries => change entries
  | key :: path, entries =>
    match Keyed.find? key entries with
    | none => do
      let inner ← within change path []
      some (Keyed.set key (.table .implied inner) entries)
    | some (.table origin inner) => do
      let inner ← within change path inner
      some (Keyed.set key (.table origin inner) entries)
    | some (.tables earlier last) => do
      let last ← within change path last
      some (Keyed.set key (.tables earlier last) entries)
    | some (.value _) => none

/-- give a key its value, unless it has one -/
def define (key : String) (value : Value) (entries : Entries) : Option Entries :=
  match Keyed.find? key entries with
  | none => some (Keyed.set key (.value value) entries)
  | some _ => none

/-- give a dotted key its value: `path` leads from these entries to the last key -/
def assign (value : Value) : List String → Entries → Option Entries
  | [], _ => none
  | [key], entries => define key value entries
  | key :: next :: path, entries =>
    let isLast := path.isEmpty
    match Keyed.find? key entries with
    | none => do
      let inner ← assign value (next :: path) []
      some (Keyed.set key (.table .dotted inner) entries)
    | some (.table origin inner) =>
      if origin = .opened ∨ (isLast ∧ origin ≠ .dotted) then none
      else do
        let inner ← assign value (next :: path) inner
        some (Keyed.set key (.table origin inner) entries)
    | some (.tables earlier last) =>
      if isLast then none
      else do
        let last ← assign value (next :: path) last
        some (Keyed.set key (.tables earlier last) entries)
    | some (.value _) => none

def openTable (key : String) (entries : Entries) : Option Entries :=
  match Keyed.find? key entries with
  | none => some (Keyed.set key (.table .opened []) entries)
  | some (.table .implied inner) => some (Keyed.move key (.table .opened inner) entries)
  | some _ => none

/-- begin a new element of the array of tables a header names -/
def openElement (key : String) (entries : Entries) : Option Entries :=
  match Keyed.find? key entries with
  | none => some (Keyed.set key (.tables [] []) entries)
  | some (.tables earlier last) => some (Keyed.set key (.tables (last :: earlier) []) entries)
  | some _ => none

/-- a text read so far: its entries and the path of the header in force -/
structure Document where
  entries : Entries
  current : List String

def Document.empty : Document := { entries := [], current := [] }

def Document.add (document : Document) : Statement → Option Document
  | .header path => do
    let key ← path.getLast?
    let entries ← within (openTable key) path.dropLast document.entries
    some { entries, current := path }
  | .arrayHeader path => do
    let key ← path.getLast?
    let entries ← within (openElement key) path.dropLast document.entries
    some { entries, current := path }
  | .assignment path value => do
    let entries ← within (assign value path) document.current document.entries
    some { document with entries }

/-- the table a list of statements spells -/
def assemble (statements : List Statement) : Option Table := do
  let document ← statements.foldlM Document.add Document.empty
  settledEntries (entriesToTable document.entries)

/-- the entries that the pairs of an inline table spell, in the order of the text -/
def assembleInline (pairs : List (List String × Value)) : Option (List (String × Value)) := do
  let entries ← pairs.foldlM (fun entries (path, value) => assign value path entries) ([] : Entries)
  some (entriesToTable entries)

end BlockProbe.Toml
