/-
Values whose tables are in key order.

A table stands for a mapping: its keys are in ascending order and each is there once, at every depth. Whatever a text
spells, the table read from it is such a table (`readTable_ordered`).
-/
import BlockProbe.Proofs.Toml.Keyed
import BlockProbe.Toml.Read

namespace BlockProbe.Toml

/-- every table inside has its keys in ascending order -/
inductive Value.Ordered : Value → Prop
  | text (text : String) : Ordered (.text text)
  | integer (value : Int64) : Ordered (.integer value)
  | float (value : Decimal.Binary64) : Ordered (.float value)
  | boolean (value : Bool) : Ordered (.boolean value)
  | moment (value : Moment) : Ordered (.moment value)
  | array {items : List Value} (h : ∀ item ∈ items, Ordered item) : Ordered (.array items)
  | table {entries : List (String × Value)} (hasc : Keyed.Ascending entries)
      (h : ∀ entry ∈ entries, Ordered entry.2) : Ordered (.table entries)

/-- a table with its keys in ascending order, and every table inside it too -/
structure OrderedTable (table : Table) : Prop where
  ascending : Keyed.Ascending table
  values : ∀ entry ∈ table, entry.2.Ordered

theorem OrderedTable.nil : OrderedTable [] := ⟨List.Pairwise.nil, by simp⟩

theorem OrderedTable.toValue {table : Table} (h : OrderedTable table) : (Value.table table).Ordered :=
  .table h.ascending h.values

theorem Value.Ordered.toTable {table : Table} (h : (Value.table table).Ordered) : OrderedTable table := by
  cases h with
  | table hasc hvalues => exact ⟨hasc, hvalues⟩

@[simp] theorem ordered_table {entries : List (String × Value)} :
    (Value.table entries).Ordered ↔ Keyed.Ascending entries ∧ ∀ entry ∈ entries, entry.2.Ordered :=
  ⟨fun h => ⟨h.toTable.ascending, h.toTable.values⟩, fun h => .table h.1 h.2⟩

@[simp] theorem ordered_array {items : List Value} :
    (Value.array items).Ordered ↔ ∀ item ∈ items, item.Ordered := by
  refine ⟨fun h => ?_, .array⟩
  cases h with
  | array hitems => exact hitems

attribute [simp] Value.Ordered.text Value.Ordered.integer Value.Ordered.float Value.Ordered.boolean
  Value.Ordered.moment

theorem OrderedTable.find? {table : Table} (h : OrderedTable table) {key : String} {value : Value}
    (hv : Keyed.find? key table = some value) : value.Ordered :=
  h.values _ (Keyed.mem_of_find? hv)

theorem OrderedTable.put {table : Table} (h : OrderedTable table) (key : String) {value : Value}
    (hv : value.Ordered) : OrderedTable (Keyed.put key value table) := by
  refine ⟨Keyed.ascending_put key value h.ascending, fun entry he => ?_⟩
  rcases Keyed.mem_put he with rfl | he
  · exact hv
  · exact h.values entry he

/-! ## Settling -/

mutual

theorem settled_ordered : (value : Value) → ∀ settled, value.settled = some settled → settled.Ordered
  | .text text, _, h => by cases h; exact .text text
  | .integer value, _, h => by cases h; exact .integer value
  | .float value, _, h => by cases h; exact .float value
  | .boolean value, _, h => by cases h; exact .boolean value
  | .moment value, _, h => by cases h; exact .moment value
  | .array items, _, h => by
    rw [Value.settled] at h
    obtain ⟨settled, hitems, rfl⟩ := Option.map_eq_some_iff.1 h
    exact .array (settledItems_ordered items settled hitems)
  | .table entries, _, h => by
    rw [Value.settled] at h
    split_ifs at h
    · obtain ⟨moment, _, rfl⟩ := Option.map_eq_some_iff.1 h
      exact .moment moment
    · obtain ⟨settled, hentries, rfl⟩ := Option.map_eq_some_iff.1 h
      exact (settledEntries_ordered entries settled hentries).toValue
termination_by structural value => value

theorem settledItems_ordered :
    (items : List Value) → ∀ settled, settledItems items = some settled → ∀ item ∈ settled, item.Ordered
  | [], _, h => by cases h; simp
  | item :: rest, _, h => by
    rw [settledItems] at h
    obtain ⟨first, hfirst, h⟩ := Option.bind_eq_some_iff.1 h
    obtain ⟨others, hothers, h⟩ := Option.bind_eq_some_iff.1 h
    cases h
    exact List.forall_mem_cons.2
      ⟨settled_ordered item first hfirst, settledItems_ordered rest others hothers⟩
termination_by structural items => items

theorem settledEntries_ordered :
    (entries : List (String × Value)) → ∀ settled, settledEntries entries = some settled → OrderedTable settled
  | [], _, h => by cases h; exact OrderedTable.nil
  | entry :: rest, _, h => by
    rw [settledEntries] at h
    obtain ⟨⟨key, value⟩, hfirst, h⟩ := Option.bind_eq_some_iff.1 h
    obtain ⟨others, hothers, h⟩ := Option.bind_eq_some_iff.1 h
    cases h
    exact (settledEntries_ordered rest others hothers).put key (settledEntry_ordered entry key value hfirst)
termination_by structural entries => entries

theorem settledEntry_ordered :
    (entry : String × Value) → ∀ key value, settledEntry entry = some (key, value) → value.Ordered
  | (_, value), _, _, h => by
    rw [settledEntry] at h
    obtain ⟨settled, hvalue, h⟩ := Option.map_eq_some_iff.1 h
    cases h
    exact settled_ordered value _ hvalue
termination_by structural entry => entry

end

/-- **Tables are mappings.** The table a text spells has its keys in ascending order at every depth. -/
theorem readTable_ordered {text : String} {table : Table} (h : readTable text = some table) :
    OrderedTable table := by
  obtain ⟨statements, _, h⟩ := Option.bind_eq_some_iff.1 h
  obtain ⟨document, _, h⟩ := Option.bind_eq_some_iff.1 h
  exact settledEntries_ordered _ _ h

end BlockProbe.Toml
