/-
The rules for a table of settings.

What may stand in a table of settings, what it stands for and what is said about anything else is laid down here without
decoding anything. A layout lists a section's fields in the order of their declaration, each with the kind of value that
it takes. A section is a table that gives its fields by key or an array that gives them by place.

- `Decodable`: every section that is there is admitted by its layout.
- `FieldsGiven`: settings in which every field is what the table gives for it, or its default.
- `Offends`: the entries of a table that break a rule, each with what is said about it.
- `FirstOffence`: the one that comes first, in byte order of keys and in the order of an array, whose length comes last.
-/
import BlockProbe.Proofs.Toml.Paths
import BlockProbe.Settings.Basic
import BlockProbe.Settings.Problem
import Mathlib.Data.List.Nodup

namespace BlockProbe.Settings

open BlockProbe.Toml

/-! ## Values -/

/-- an integer between two bounds -/
def IsIntegerIn (least greatest : Int) : Value → Prop
  | .integer n => least ≤ n.toInt ∧ n.toInt ≤ greatest
  | _ => False

/-- a truth value -/
def IsBoolean : Value → Prop
  | .boolean _ => True
  | _ => False

/-- text, or a moment -/
def IsText : Value → Prop
  | .text _ | .moment _ => True
  | _ => False

/-- the names of the five levels -/
def levelNames : List String := ["error", "warn", "info", "debug", "trace"]

/-- an empty table or an empty array -/
def IsEmpty : Value → Prop
  | .table entries => entries = []
  | .array items => items = []
  | _ => False

/-- the name of a level, alone or as the one key of a table, over an empty value -/
def IsLevel : Value → Prop
  | .text name => name ∈ levelNames
  | .table [(name, payload)] => name ∈ levelNames ∧ IsEmpty payload
  | _ => False

/-- the kinds of values that fields take -/
inductive FieldKind where
  | unsigned32
  | unsigned64
  | boolean
  | text
  | level
deriving DecidableEq, Repr

/-- is the value one of the kind? Integers have a sign and 64 bits where they are written. -/
def FieldKind.Accepts : FieldKind → Value → Prop
  | .unsigned32 => IsIntegerIn 0 0xFFFFFFFF
  | .unsigned64 => IsIntegerIn 0 0x7FFFFFFFFFFFFFFF
  | .boolean => IsBoolean
  | .text => IsText
  | .level => IsLevel

/-- what is said about a value that is no number of the kind: it is out of range if it is an integer at all -/
def numberObjection (wanted : Wanted) : Value → Flaw
  | .integer n => .outOfRange n wanted
  | other => .wrongKind other wanted

/-- what is said about a value that is no level: names come first, what stands beside them second -/
def levelObjection : Value → Flaw
  | .text name => .unknownLevel name
  | .table [] => .levelEmpty
  | .table [(name, payload)] => if name ∈ levelNames then .levelPayload payload else .unknownLevel name
  | .table _ => .levelCrowded
  | _ => .levelKind

/-- what is said about a value that is not of the kind -/
def FieldKind.objection : FieldKind → Value → Flaw
  | .unsigned32 => numberObjection .unsigned32
  | .unsigned64 => numberObjection .unsigned64
  | .boolean => fun value => .wrongKind value .boolean
  | .text => fun value => .wrongKind value .text
  | .level => levelObjection

/-- the integer is this number -/
def StandsForNumber (value : Value) (n : Nat) : Prop := ∃ i : Int64, value = .integer i ∧ i.toInt = n

/-- the value is this text, or the moment with this text -/
def StandsForText (value : Value) (text : String) : Prop :=
  value = .text text ∨ ∃ moment, value = .moment moment ∧ moment.text = text

/-- the value names this level -/
def StandsForLevel (value : Value) (level : Level) : Prop :=
  value = .text level.name ∨ ∃ payload, value = .table [(level.name, payload)]

/-! ## Layouts -/

/-- a field: its key and the kind of value it takes -/
structure Field where
  key : String
  kind : FieldKind
deriving DecidableEq, Repr

/-- a section: its key, what it is called, and its fields in the order of their declaration -/
structure Layout where
  name : String
  record : String
  fields : List Field
deriving DecidableEq, Repr

def heartbeatLayout : Layout where
  name := "heartbeat"
  record := "HeartbeatConfig"
  fields := [⟨"interval_secs", .unsigned64⟩, ⟨"message", .text⟩]

def logLayout : Layout where
  name := "log"
  record := "LogConfig"
  fields := [⟨"level", .level⟩]

def probeLayout : Layout where
  name := "probe"
  record := "ProbeConfig"
  fields := [⟨"file_mode", .unsigned32⟩, ⟨"verify", .boolean⟩, ⟨"sync", .boolean⟩]

def layouts : List Layout := [heartbeatLayout, logLayout, probeLayout]

namespace Layout

/-- the fields that a section's value gives, by key -/
def given (layout : Layout) : Value → List (String × Value)
  | .table entries => entries
  | .array items => (layout.fields.map Field.key).zip items
  | _ => []

/-- what a table gives for a field of the section -/
def lookUp (layout : Layout) (key : String) (table : Table) : Option Value :=
  (Keyed.find? layout.name table).bind fun value => Keyed.find? key (layout.given value)

/-- a table whose known fields hold acceptable values, or an array that is not too long and whose items are acceptable
for the fields at their places -/
def Admits (layout : Layout) : Value → Prop
  | .table entries => ∀ field ∈ layout.fields, ∀ given, Keyed.find? field.key entries = some given →
      field.kind.Accepts given
  | .array items => items.length ≤ layout.fields.length ∧ ∀ item ∈ items.zip layout.fields, item.2.kind.Accepts item.1
  | _ => False

/-- the table that gives by key what an array gives by place -/
def byKey (layout : Layout) (items : List Value) : Table := Keyed.inOrder (layout.given (.array items))

end Layout

/-- every section that is there is admitted -/
def Decodable (table : Table) : Prop :=
  ∀ layout ∈ layouts, ∀ value, Keyed.find? layout.name table = some value → layout.Admits value

/-- a field is what its value stands for, or its default where it has none -/
def Given {β : Type} (standsFor : Value → β → Prop) (source : Option Value) (standard value : β) : Prop :=
  match source with
  | some given => standsFor given value
  | none => value = standard

/-- every field is what the table gives for it, or its default -/
structure FieldsGiven (table : Table) (settings : Settings) : Prop where
  fileMode : Given (fun value mode => StandsForNumber value mode.toNat) (probeLayout.lookUp "file_mode" table)
    (0o644 : UInt32) settings.probe.fileMode
  verify : Given (fun value verify => value = .boolean verify) (probeLayout.lookUp "verify" table) true
    settings.probe.verify
  sync : Given (fun value sync => value = .boolean sync) (probeLayout.lookUp "sync" table) false settings.probe.sync
  interval : Given (fun value interval => StandsForNumber value interval.toNat)
    (heartbeatLayout.lookUp "interval_secs" table) (10 : UInt64) settings.heartbeat.intervalSecs
  message : Given StandsForText (heartbeatLayout.lookUp "message" table) "- Sleeping" settings.heartbeat.message
  level : Given StandsForLevel (logLayout.lookUp "level" table) .warn settings.log.level

/-! ## Offences -/

/-- where in a section's value something stands -/
inductive Spot where
  | whole
  | field (key : String)
  | item (index : Nat)
  | length
deriving DecidableEq, Repr

/-- is the first spot looked at before the second? Keys go in byte order, items in theirs, and a length comes after its
items. -/
def Spot.Before : Spot → Spot → Prop
  | .field key, .field other => key < other
  | .item index, .item other => index < other
  | .item _, .length => True
  | _, _ => False

/-- what breaks a rule in a section's value, where, and what is said about it; only a field of a table is named -/
inductive Layout.Offends (layout : Layout) : Value → Spot → Problem → Prop
  | whole {value : Value} (htable : ¬ value.IsTable) (harray : ∀ items, value ≠ .array items) :
    Offends layout value .whole { flaw := .wrongKind value (.record layout.record), path := [layout.name] }
  | field {entries : Table} {field : Field} {given : Value} (hfield : field ∈ layout.fields)
    (hgiven : Keyed.find? field.key entries = some given) (hnot : ¬ field.kind.Accepts given) :
    Offends layout (.table entries) (.field field.key)
      { flaw := field.kind.objection given, path := [layout.name, field.key] }
  | item {items : List Value} {index : Nat} {field : Field} {given : Value}
    (hfield : layout.fields[index]? = some field) (hgiven : items[index]? = some given)
    (hnot : ¬ field.kind.Accepts given) :
    Offends layout (.array items) (.item index) { flaw := field.kind.objection given, path := [layout.name] }
  | length {items : List Value} (hlong : layout.fields.length < items.length) :
    Offends layout (.array items) .length { flaw := .tooLong items.length, path := [layout.name] }

/-- what breaks a rule in a table, in which section and where in it, and what is said about it -/
def Offends (table : Table) (place : String × Spot) (problem : Problem) : Prop :=
  ∃ layout ∈ layouts, layout.name = place.1 ∧
    ∃ value, Keyed.find? layout.name table = some value ∧ layout.Offends value place.2 problem

/-- is the first place looked at before the second? Sections go in byte order of their keys. -/
def Precedes (place other : String × Spot) : Prop :=
  place.1 < other.1 ∨ (place.1 = other.1 ∧ place.2.Before other.2)

instance : DecidableRel Spot.Before
  | .field key, .field other => inferInstanceAs (Decidable (key < other))
  | .item index, .item other => inferInstanceAs (Decidable (index < other))
  | .item _, .length => .isTrue trivial
  | .whole, _ | .length, _ | .field _, .whole | .field _, .item _ | .field _, .length | .item _, .whole
  | .item _, .field _ => .isFalse not_false

instance : DecidableRel Precedes := fun place other =>
  inferInstanceAs (Decidable (place.1 < other.1 ∨ (place.1 = other.1 ∧ place.2.Before other.2)))

-- the order of keys is not that of declaration: `sync` comes before `verify`, and `log` before `probe`
example : Precedes ("probe", .field "file_mode") ("probe", .field "sync") ∧
    Precedes ("probe", .field "sync") ("probe", .field "verify") ∧
    Precedes ("heartbeat", .length) ("log", .whole) ∧ Precedes ("log", .field "level") ("probe", .item 0) := by decide

/-- the offence that is looked at before all others -/
def FirstOffence (table : Table) (problem : Problem) : Prop :=
  ∃ place, Offends table place problem ∧
    ∀ other another, Offends table other another → other = place ∨ Precedes place other

/-! ## What the rules say -/

theorem forall_layouts {P : Layout → Prop} :
    (∀ layout ∈ layouts, P layout) ↔ P heartbeatLayout ∧ P logLayout ∧ P probeLayout := by
  simp [layouts]

theorem keys_nodup : ∀ layout ∈ layouts, (layout.fields.map Field.key).Nodup :=
  forall_layouts.2 ⟨by decide, by decide, by decide⟩

/-- sections have names of their own -/
theorem eq_of_name {layout other : Layout} (h : layout ∈ layouts) (hother : other ∈ layouts)
    (hname : layout.name = other.name) : layout = other :=
  List.inj_on_of_nodup_map (f := Layout.name) (by decide) h hother hname

namespace Layout

variable {layout : Layout}

theorem eq_of_key (h : layout ∈ layouts) {field other : Field} (hfield : field ∈ layout.fields)
    (hother : other ∈ layout.fields) (hkey : field.key = other.key) : field = other :=
  List.inj_on_of_nodup_map (keys_nodup layout h) hfield hother hkey

/-- what is admitted is what does not offend -/
theorem admits_iff {value : Value} : layout.Admits value ↔ ∀ spot problem, ¬ layout.Offends value spot problem := by
  constructor
  · intro h spot problem hoffends
    cases hoffends with
    | whole htable harray =>
      cases value with
      | table entries => exact htable trivial
      | array items => exact harray items rfl
      | _ => exact h
    | field hfield hgiven hnot => exact hnot (h _ hfield _ hgiven)
    | @item items index field given hfield hgiven hnot =>
      exact hnot (h.2 (given, field) (List.mem_of_getElem? (List.getElem?_zip_eq_some.2 ⟨hgiven, hfield⟩)))
    | length hlong => exact absurd h.1 (not_le.2 hlong)
  · intro h
    cases value with
    | table entries =>
      intro field hfield given hgiven
      by_contra hnot
      exact h _ _ (.field hfield hgiven hnot)
    | array items =>
      refine ⟨not_lt.1 fun hlong => h _ _ (.length hlong), fun item hitem => ?_⟩
      obtain ⟨index, hindex⟩ := List.getElem?_of_mem hitem
      obtain ⟨hgiven, hfield⟩ := List.getElem?_zip_eq_some.1 hindex
      by_contra hnot
      exact h _ _ (.item hfield hgiven hnot)
    | _ => exact h _ _ (.whole not_false fun _ => nofun)

/-- one thing is said about what stands at a spot -/
theorem Offends.unique (hmem : layout ∈ layouts) {value : Value} {spot : Spot} {problem other : Problem}
    (h : layout.Offends value spot problem) (hother : layout.Offends value spot other) : problem = other := by
  cases h with
  | whole htable harray => cases hother; rfl
  | @field entries field given hfield hgiven hnot =>
    generalize hspot : Spot.field field.key = spot at hother
    cases hother with
    | field hfield' hgiven' hnot' =>
      cases eq_of_key hmem hfield hfield' (Spot.field.inj hspot)
      cases hgiven.symm.trans hgiven'
      rfl
    | _ => cases hspot
  | item hfield hgiven hnot =>
    cases hother with
    | item hfield' hgiven' hnot' =>
      cases hfield.symm.trans hfield'
      cases hgiven.symm.trans hgiven'
      rfl
  | length hlong => cases hother; rfl

end Layout

theorem decodable_iff {table : Table} : Decodable table ↔ ∀ place problem, ¬ Offends table place problem := by
  constructor
  · rintro h place problem ⟨layout, hmem, -, value, hvalue, hoffends⟩
    exact Layout.admits_iff.1 (h layout hmem value hvalue) _ _ hoffends
  · intro h layout hmem value hvalue
    exact Layout.admits_iff.2 fun spot problem hoffends =>
      h (layout.name, spot) problem ⟨layout, hmem, rfl, value, hvalue, hoffends⟩

theorem Offends.unique {table : Table} {place : String × Spot} {problem other : Problem}
    (h : Offends table place problem) (hother : Offends table place other) : problem = other := by
  obtain ⟨layout, hmem, hname, value, hvalue, hoffends⟩ := h
  obtain ⟨layout', hmem', hname', value', hvalue', hoffends'⟩ := hother
  cases eq_of_name hmem hmem' (hname.trans hname'.symm)
  cases hvalue.symm.trans hvalue'
  exact hoffends.unique hmem hoffends'

/-! ## Arrays by key -/

section Arrays

variable {layout : Layout} {items : List Value}

/-- what an array gives for a field is the item at its place -/
theorem Layout.find?_given_array (hmem : layout ∈ layouts) {field : Field} (hfield : field ∈ layout.fields)
    {given : Value} : Keyed.find? field.key (layout.given (.array items)) = some given ↔
      ∃ index : Nat, layout.fields[index]? = some field ∧ items[index]? = some given := by
  constructor
  · intro h
    obtain ⟨index, hindex⟩ := List.getElem?_of_mem (Keyed.mem_of_find? h)
    obtain ⟨hkey, hgiven⟩ := List.getElem?_zip_eq_some.1 hindex
    rw [List.getElem?_map, Option.map_eq_some_iff] at hkey
    obtain ⟨other, hother, hkey⟩ := hkey
    cases eq_of_key hmem (List.mem_of_getElem? hother) hfield hkey
    exact ⟨index, hother, hgiven⟩
  · rintro ⟨index, hindex, hgiven⟩
    have hkey : (layout.fields.map Field.key)[index]? = some field.key := by rw [List.getElem?_map, hindex]; rfl
    exact Keyed.find?_of_mem (Keyed.distinct_zip (keys_nodup layout hmem) items)
      (List.mem_of_getElem? (List.getElem?_zip_eq_some.2 ⟨hkey, hgiven⟩))

/-- by key an array is admitted as it is by place, if it is not too long -/
theorem Layout.admits_byKey (hmem : layout ∈ layouts) (hlength : items.length ≤ layout.fields.length) :
    layout.Admits (.table (layout.byKey items)) ↔ layout.Admits (.array items) := by
  constructor
  · intro h
    refine ⟨hlength, fun item hitem => ?_⟩
    obtain ⟨index, hindex⟩ := List.getElem?_of_mem hitem
    obtain ⟨hgiven, hfield⟩ := List.getElem?_zip_eq_some.1 hindex
    refine h _ (List.mem_of_getElem? hfield) item.1 ?_
    rw [byKey, Keyed.find?_inOrder]
    exact (find?_given_array hmem (List.mem_of_getElem? hfield)).2 ⟨index, hfield, hgiven⟩
  · rintro ⟨-, h⟩ field hfield given hgiven
    rw [byKey, Keyed.find?_inOrder] at hgiven
    obtain ⟨index, hindex, hitem⟩ := (find?_given_array hmem hfield).1 hgiven
    exact h (given, field) (List.mem_of_getElem? (List.getElem?_zip_eq_some.2 ⟨hitem, hindex⟩))

variable {table : Table}

theorem decodable_byKey (hmem : layout ∈ layouts) (hitems : Keyed.find? layout.name table = some (.array items))
    (hlength : items.length ≤ layout.fields.length) :
    Decodable (Keyed.put layout.name (.table (layout.byKey items)) table) ↔ Decodable table := by
  refine forall₂_congr fun other hother => ?_
  rw [Keyed.find?_put]
  by_cases hname : layout.name = other.name
  · cases eq_of_name hmem hother hname
    rw [if_pos rfl, hitems]
    simp [Layout.admits_byKey hmem hlength]
  · rw [if_neg hname]

/-- by key an array gives what it gives by place -/
theorem lookUp_byKey (hmem : layout ∈ layouts) (hitems : Keyed.find? layout.name table = some (.array items)) :
    ∀ other ∈ layouts, ∀ key,
      other.lookUp key (Keyed.put layout.name (.table (layout.byKey items)) table) = other.lookUp key table := by
  intro other hother key
  unfold Layout.lookUp
  rw [Keyed.find?_put]
  by_cases hname : layout.name = other.name
  · cases eq_of_name hmem hother hname
    rw [if_pos rfl, hitems]
    exact Keyed.find?_inOrder key _
  · rw [if_neg hname]

end Arrays

/-! ## Settings that a table gives -/

theorem StandsForNumber.unique {value : Value} {n m : Nat} (h : StandsForNumber value n)
    (hother : StandsForNumber value m) : n = m := by
  obtain ⟨i, rfl, hn⟩ := h
  obtain ⟨_, hvalue, hm⟩ := hother
  cases hvalue
  exact Int.ofNat.inj (hn.symm.trans hm)

theorem StandsForText.unique {value : Value} {text other : String} (h : StandsForText value text)
    (hother : StandsForText value other) : text = other := by
  rcases h with rfl | ⟨moment, rfl, rfl⟩
  · rcases hother with hother | ⟨_, hother, -⟩
    · cases hother; rfl
    · cases hother
  · rcases hother with hother | ⟨_, hother, rfl⟩
    · cases hother
    · cases hother; rfl

theorem levelName_injective : Function.Injective Level.name := by
  intro level other h
  revert h
  cases level <;> cases other <;> decide

theorem StandsForLevel.unique {value : Value} {level other : Level} (h : StandsForLevel value level)
    (hother : StandsForLevel value other) : level = other := by
  rcases h with rfl | ⟨payload, rfl⟩
  · rcases hother with hother | ⟨_, hother⟩
    · exact levelName_injective (Value.text.inj hother)
    · cases hother
  · rcases hother with hother | ⟨_, hother⟩
    · cases hother
    · exact levelName_injective (congrArg Prod.fst (List.cons.inj (Value.table.inj hother)).1)

theorem Given.unique {β : Type} {standsFor : Value → β → Prop}
    (hunique : ∀ value first second, standsFor value first → standsFor value second → first = second)
    {source : Option Value} {standard first second : β} (hfirst : Given standsFor source standard first)
    (hsecond : Given standsFor source standard second) : first = second := by
  cases source with
  | none => exact hfirst.trans hsecond.symm
  | some given => exact hunique given _ _ hfirst hsecond

/-- **A table gives one config at most.** -/
theorem FieldsGiven.unique {table : Table} {settings other : Settings} (h : FieldsGiven table settings)
    (hother : FieldsGiven table other) : settings = other := by
  have hmode := h.fileMode.unique (fun _ _ _ hn hm => UInt32.toNat_inj.1 (hn.unique hm)) hother.fileMode
  have hverify := h.verify.unique (fun _ _ _ hn hm => Value.boolean.inj (hn.symm.trans hm)) hother.verify
  have hsync := h.sync.unique (fun _ _ _ hn hm => Value.boolean.inj (hn.symm.trans hm)) hother.sync
  have hinterval := h.interval.unique (fun _ _ _ hn hm => UInt64.toNat_inj.1 (hn.unique hm)) hother.interval
  have hmessage := h.message.unique (fun _ _ _ hn hm => hn.unique hm) hother.message
  have hlevel := h.level.unique (fun _ _ _ hn hm => hn.unique hm) hother.level
  obtain ⟨⟨_, _, _⟩, ⟨_, _⟩, ⟨_⟩⟩ := settings
  obtain ⟨⟨_, _, _⟩, ⟨_, _⟩, ⟨_⟩⟩ := other
  cases hmode
  cases hverify
  cases hsync
  cases hinterval
  cases hmessage
  cases hlevel
  rfl

/-- settings are given by what is looked up for the fields -/
theorem FieldsGiven.congr {table other : Table}
    (h : ∀ layout ∈ layouts, ∀ field ∈ layout.fields, layout.lookUp field.key table = layout.lookUp field.key other)
    {settings : Settings} (hgiven : FieldsGiven table settings) : FieldsGiven other settings := by
  simp only [forall_layouts, heartbeatLayout, logLayout, probeLayout, List.forall_mem_cons, List.not_mem_nil,
    false_implies, implies_true, and_true] at h
  obtain ⟨⟨hinterval, hmessage⟩, hlevel, hmode, hverify, hsync⟩ := h
  exact ⟨hmode ▸ hgiven.fileMode, hverify ▸ hgiven.verify, hsync ▸ hgiven.sync, hinterval ▸ hgiven.interval,
    hmessage ▸ hgiven.message, hlevel ▸ hgiven.level⟩

/-! ## First offences -/

theorem Spot.Before.asymm {spot other : Spot} (h : spot.Before other) : ¬ other.Before spot := by
  cases spot <;> cases other <;> simp only [Before] at h ⊢
  · exact lt_asymm h
  · exact lt_asymm h
  · exact not_false

theorem Precedes.asymm {place other : String × Spot} (h : Precedes place other) : ¬ Precedes other place := by
  rintro (hname | ⟨hname, hspot⟩)
  · rcases h with h | ⟨h, -⟩
    · exact lt_asymm h hname
    · exact absurd h.symm (ne_of_lt hname)
  · rcases h with h | ⟨-, h⟩
    · exact absurd hname.symm (ne_of_lt h)
    · exact h.asymm hspot

/-- **There is one first offence.** -/
theorem FirstOffence.unique {table : Table} {problem other : Problem} (h : FirstOffence table problem)
    (hother : FirstOffence table other) : problem = other := by
  obtain ⟨place, hoffends, hfirst⟩ := h
  obtain ⟨place', hoffends', hfirst'⟩ := hother
  have hplace : place = place' := by
    rcases hfirst' _ _ hoffends with heq | hbefore
    · exact heq
    · rcases hfirst _ _ hoffends' with heq | hbefore'
      · exact heq.symm
      · exact absurd hbefore' hbefore.asymm
  subst hplace
  exact hoffends.unique hoffends'

end BlockProbe.Settings
