/-
Settings from a table.

A section is a table that gives its settings by key, or an array that gives them in declaration order. Missing settings
keep their defaults, unknown keys mean nothing. The entries of a table are visited in key order and the items of an
array in theirs, and the first flaw met is the one reported; that an array is too long is noticed after its items.

- `Setting`: a key and how its value is taken.
- `Section.read`: a section from any value.
- `decode`: all settings from the table the files were merged into.
-/
import BlockProbe.Settings.Basic
import BlockProbe.Settings.Problem

namespace BlockProbe.Settings

open BlockProbe.Toml (Value Table)

/-- an integer of at most 32 bits -/
def asUnsigned32 : Value → Except Flaw UInt32
  | .integer value =>
    if 0 ≤ value.toInt ∧ value.toInt < 0x100000000 then .ok (UInt32.ofNat value.toInt.toNat)
    else .error (.outOfRange value .unsigned32)
  | other => .error (.wrongKind other .unsigned32)

/-- an integer that is not negative -/
def asUnsigned64 : Value → Except Flaw UInt64
  | .integer value =>
    if 0 ≤ value.toInt then .ok (UInt64.ofNat value.toInt.toNat)
    else .error (.outOfRange value .unsigned64)
  | other => .error (.wrongKind other .unsigned64)

def asBoolean : Value → Except Flaw Bool
  | .boolean value => .ok value
  | other => .error (.wrongKind other .boolean)

/-- text, or a moment standing for its text -/
def asText : Value → Except Flaw String
  | .text text => .ok text
  | .moment moment => .ok moment.text
  | other => .error (.wrongKind other .text)

/-- the level with exactly this name -/
def levelNamed (name : String) : Except Flaw Level :=
  match Level.ofName? name with
  | some level => .ok level
  | none => .error (.unknownLevel name)

/-- may the value stand beside a level's name? Only an empty table or an empty array may. -/
def isEmptyPayload : Value → Bool
  | .table entries => entries.isEmpty
  | .array items => items.isEmpty
  | _ => false

/-- a level by name, or as the only key of a table with an empty value; the name is looked at first -/
def asLevel : Value → Except Flaw Level
  | .text name => levelNamed name
  | .table [] => .error .levelEmpty
  | .table [(name, payload)] => do
    let level ← levelNamed name
    if isEmptyPayload payload then .ok level else .error (.levelPayload payload)
  | .table _ => .error .levelCrowded
  | _ => .error .levelKind

/-- one setting of a section: its key and what its value changes -/
structure Setting (α : Type) where
  key : String
  set : Value → α → Except Flaw α

/-- a setting that reads its value and stores it -/
def Setting.of {α β : Type} (key : String) (read : Value → Except Flaw β) (store : α → β → α) : Setting α where
  key := key
  set value before := (read value).map (store before)

/-- a section: what it is called and its settings in declaration order -/
structure Section (α : Type) where
  name : String
  settings : List (Setting α)

namespace Section

variable {α : Type}

/-- take one entry of a section's table -/
def takeEntry (part : Section α) (path : List String) (before : α) (entry : String × Value) :
    Except Problem α :=
  match part.settings.find? fun setting => setting.key == entry.1 with
  | some setting => (setting.set entry.2 before).mapError fun flaw => { flaw, path := path ++ [entry.1] }
  | none => .ok before

/-- take one item of a section's array -/
def takeItem (path : List String) (before : α) (item : Value × Setting α) : Except Problem α :=
  (item.2.set item.1 before).mapError fun flaw => { flaw, path }

/-- a section from the value under its key -/
def read (part : Section α) (path : List String) (before : α) : Value → Except Problem α
  | .table entries => entries.foldlM (part.takeEntry path) before
  | .array items => do
    let after ← (items.zip part.settings).foldlM (takeItem path) before
    if items.length > part.settings.length then .error { flaw := .tooLong items.length, path }
    else .ok after
  | other => .error { flaw := .wrongKind other (.record part.name), path }

end Section

def probeSection : Section ProbeSettings where
  name := "ProbeConfig"
  settings := [
    .of "file_mode" asUnsigned32 fun probe fileMode => { probe with fileMode },
    .of "verify" asBoolean fun probe verify => { probe with verify },
    .of "sync" asBoolean fun probe sync => { probe with sync }]

def heartbeatSection : Section HeartbeatSettings where
  name := "HeartbeatConfig"
  settings := [
    .of "interval_secs" asUnsigned64 fun heartbeat intervalSecs => { heartbeat with intervalSecs },
    .of "message" asText fun heartbeat message => { heartbeat with message }]

def logSection : Section LogSettings where
  name := "LogConfig"
  settings := [.of "level" asLevel fun _ level => { level }]

/-- take one entry of the whole table -/
def takeSection (before : Settings) (entry : String × Value) : Except Problem Settings :=
  if entry.1 = "probe" then
    (probeSection.read [entry.1] before.probe entry.2).map fun probe => { before with probe }
  else if entry.1 = "heartbeat" then
    (heartbeatSection.read [entry.1] before.heartbeat entry.2).map fun heartbeat => { before with heartbeat }
  else if entry.1 = "log" then
    (logSection.read [entry.1] before.log entry.2).map fun log => { before with log }
  else .ok before

def decode (table : Table) : Except Problem Settings := table.foldlM takeSection Settings.default

end BlockProbe.Settings
