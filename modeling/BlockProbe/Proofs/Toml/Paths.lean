/-
What is where in overlaid tables.

A path of keys leads through tables to a value. Where it leads in the result of laying one table over another is said by
where it leads in the two: `overlay_pointwise`. The upper table's own value is there, or else the lower table's, unless
the path runs into a value of the upper table that is no table (`Shadowed`).

- `at?_overlayValue`: the same for two values, by induction on the path; everything else follows from it.
-/
import BlockProbe.Proofs.Toml.Overlay

namespace BlockProbe.Toml

/-- is the value a table? -/
def Value.IsTable : Value → Prop
  | .table _ => True
  | _ => False

theorem Value.isTable_iff {value : Value} : value.IsTable ↔ ∃ entries, value = .table entries := by
  cases value <;> simp [IsTable]

/-- the value that a path of keys leads to, through tables only -/
def Value.at? : List String → Value → Option Value
  | [], value => some value
  | key :: rest, .table entries => (Keyed.find? key entries).bind (Value.at? rest)
  | _ :: _, _ => none

/-- the value that a path of keys leads to in a table -/
def at? (path : List String) (table : Table) : Option Value := (Value.table table).at? path

/-- does the path lead to a table? -/
def HoldsTable (path : List String) (table : Table) : Prop := ∃ entries, at? path table = some (.table entries)

theorem holdsTable_iff {path : List String} {table : Table} :
    HoldsTable path table ↔ ∃ value, at? path table = some value ∧ value.IsTable := by
  simp [HoldsTable, Value.isTable_iff]

/-- does the path run into something that is no table before its end? -/
def Value.Shadowed (path : List String) (value : Value) : Prop :=
  ∃ front, front <+: path ∧ front ≠ path ∧ ∃ met, value.at? front = some met ∧ ¬ met.IsTable

/-- does the path run into something that is no table before its end in a table? -/
def Shadowed (path : List String) (table : Table) : Prop := (Value.table table).Shadowed path

namespace Value

theorem at?_of_not_table {value : Value} (h : ¬ value.IsTable) (key : String) (rest : List String) :
    value.at? (key :: rest) = none := by
  cases value with
  | table entries => exact (h trivial).elim
  | _ => rfl

/-- a path followed in two parts -/
theorem at?_append (first rest : List String) (value : Value) :
    value.at? (first ++ rest) = (value.at? first).bind fun met => met.at? rest := by
  induction first generalizing value with
  | nil => rfl
  | cons key first ih =>
    cases value with
    | table entries =>
      show (Keyed.find? key entries).bind (Value.at? (first ++ rest)) =
        ((Keyed.find? key entries).bind (Value.at? first)).bind _
      cases Keyed.find? key entries with
      | none => rfl
      | some below => exact ih below
    | _ => rfl

theorem Ordered.at? {path : List String} {value met : Value} (h : value.Ordered) (hmet : value.at? path = some met) :
    met.Ordered := by
  induction path generalizing value with
  | nil => cases hmet; exact h
  | cons key rest ih =>
    cases value with
    | table entries =>
      obtain ⟨below, hbelow, hmet⟩ := Option.bind_eq_some_iff.1 hmet
      exact ih (h.toTable.find? hbelow) hmet
    | _ => cases hmet

theorem shadowed_of_not_table {value : Value} (h : ¬ value.IsTable) (key : String) (rest : List String) :
    value.Shadowed (key :: rest) :=
  ⟨[], List.nil_prefix, (List.cons_ne_nil key rest).symm, value, rfl, h⟩

theorem shadowed_table {entries : Table} {key : String} {rest : List String} :
    (Value.table entries).Shadowed (key :: rest) ↔
      ∃ below, Keyed.find? key entries = some below ∧ below.Shadowed rest := by
  constructor
  · rintro ⟨front, hfront, hne, met, hmet, hleaf⟩
    cases front with
    | nil => cases hmet; exact (hleaf trivial).elim
    | cons first front =>
      obtain ⟨rfl, hrest⟩ := List.cons_prefix_cons.1 hfront
      obtain ⟨below, hbelow, hmet⟩ := Option.bind_eq_some_iff.1 hmet
      exact ⟨below, hbelow, front, hrest, fun h => hne (h ▸ rfl), met, hmet, hleaf⟩
  · rintro ⟨below, hbelow, front, hfront, hne, met, hmet, hleaf⟩
    refine ⟨key :: front, List.cons_prefix_cons.2 ⟨rfl, hfront⟩, fun h => hne (List.cons.inj h).2, met, ?_, hleaf⟩
    exact Option.bind_eq_some_iff.2 ⟨below, hbelow, hmet⟩

/-- a path that runs into something leads nowhere -/
theorem Shadowed.at? {path : List String} {value : Value} (h : value.Shadowed path) : value.at? path = none := by
  obtain ⟨front, ⟨rest, rfl⟩, hne, met, hmet, hleaf⟩ := h
  cases rest with
  | nil => exact (hne (List.append_nil front).symm).elim
  | cons key rest => rw [at?_append, hmet]; exact at?_of_not_table hleaf key rest

end Value

/-! ## One value over another -/

@[simp] theorem overlayValue_none (value : Value) : overlayValue none value = value :=
  overlayValue_of_not_table fun _ _ h => by cases h.1

/-- what is no table is taken as it is -/
theorem overlayValue_leaf (below : Option Value) {value : Value} (h : ¬ value.IsTable) :
    overlayValue below value = value :=
  overlayValue_of_not_table fun _ _ hb => h (hb.2 ▸ trivial)

/-- over what is no table the value is taken as it is -/
theorem overlayValue_over_leaf {below : Value} (h : ¬ below.IsTable) (value : Value) :
    overlayValue (some below) value = value :=
  overlayValue_of_not_table fun _ _ hb => h ((Option.some.inj hb.1) ▸ trivial)

theorem overlayValue_isTable {below : Option Value} {value : Value} :
    (overlayValue below value).IsTable ↔ value.IsTable := by
  cases value with
  | table upper =>
    refine iff_of_true ?_ trivial
    cases below with
    | none => trivial
    | some lower => cases lower <;> trivial
  | _ => exact Iff.rfl

open Classical in
/-- **Where a path leads in overlaid values.** To the upper value's own, laid over the lower value's; to the lower
value's where the upper has none, unless the path runs into something in the upper. -/
theorem at?_overlayValue (path : List String) (below : Option Value) {value : Value} (h : value.Ordered) :
    (overlayValue below value).at? path =
      match value.at? path with
      | some met => some (overlayValue (below.bind (Value.at? path)) met)
      | none => if value.Shadowed path then none else below.bind (Value.at? path) := by
  induction path generalizing below value with
  | nil => cases below <;> rfl
  | cons key rest ih =>
    by_cases htable : value.IsTable
    swap
    · rw [overlayValue_leaf below htable, Value.at?_of_not_table htable]
      exact (if_pos (Value.shadowed_of_not_table htable key rest)).symm
    obtain ⟨upper, rfl⟩ := Value.isTable_iff.1 htable
    by_cases hbelow : ∃ base, below = some (.table base)
    · -- two tables: the path goes on in what both hold under its first key
      obtain ⟨base, rfl⟩ := hbelow
      show (Keyed.find? key (overlay base upper)).bind (Value.at? rest) =
        match (Keyed.find? key upper).bind (Value.at? rest) with
        | some met => some (overlayValue ((Keyed.find? key base).bind (Value.at? rest)) met)
        | none => if _ then none else (Keyed.find? key base).bind (Value.at? rest)
      simp only [find?_overlay base h.toTable.ascending.distinct, Value.shadowed_table]
      cases hkey : Keyed.find? key upper with
      | none => simp
      | some own => simpa using ih (Keyed.find? key base) (h.toTable.find? hkey)
    · have hover : overlayValue below (.table upper) = .table upper :=
        overlayValue_of_not_table fun base _ hb => hbelow ⟨base, hb.1⟩
      have hnone : below.bind (Value.at? (key :: rest)) = none := by
        cases below with
        | none => rfl
        | some lower => exact Value.at?_of_not_table (fun ht => hbelow (by
            obtain ⟨base, rfl⟩ := Value.isTable_iff.1 ht; exact ⟨base, rfl⟩)) key rest
      rw [hover, hnone]
      cases (Value.table upper).at? (key :: rest) <;> simp

/-! ## One table over another -/

section Overlay

variable {base upper : Table} {path : List String}

/-- what the upper table holds is there, laid over what the lower one holds -/
theorem at?_overlay_of_upper (hupper : OrderedTable upper) {value : Value} (h : at? path upper = some value) :
    at? path (overlay base upper) = some (overlayValue (at? path base) value) := by
  have hpoint := at?_overlayValue path (some (.table base)) hupper.toValue
  rw [show (Value.table upper).at? path = some value from h] at hpoint
  exact hpoint

/-- what the upper table does not hold is as it was, unless the path runs into something there -/
theorem at?_overlay_of_free (hupper : OrderedTable upper) (h : at? path upper = none) (hfree : ¬ Shadowed path upper) :
    at? path (overlay base upper) = at? path base := by
  have hpoint := at?_overlayValue path (some (.table base)) hupper.toValue
  rw [show (Value.table upper).at? path = none from h] at hpoint
  exact hpoint.trans (if_neg hfree)

theorem at?_overlay_of_shadowed (hupper : OrderedTable upper) (h : Shadowed path upper) :
    at? path (overlay base upper) = none := by
  have hpoint := at?_overlayValue path (some (.table base)) hupper.toValue
  rw [Value.Shadowed.at? h] at hpoint
  exact hpoint.trans (if_pos h)

/-- **Where a path leads in overlaid tables.** -/
theorem at?_overlay_eq_some (hupper : OrderedTable upper) {value : Value} :
    at? path (overlay base upper) = some value ↔
      (∃ own, at? path upper = some own ∧ overlayValue (at? path base) own = value) ∨
      (at? path base = some value ∧ at? path upper = none ∧ ¬ Shadowed path upper) := by
  cases hown : at? path upper with
  | some own => rw [at?_overlay_of_upper hupper hown]; simp
  | none =>
    by_cases hshadowed : Shadowed path upper
    · rw [at?_overlay_of_shadowed hupper hshadowed]; simp [hshadowed]
    · rw [at?_overlay_of_free hupper hown hshadowed]; simp [hshadowed]

/-- where both are tables, their overlay is there -/
theorem at?_overlay_tables (hupper : OrderedTable upper) {below above : Table}
    (hbelow : at? path base = some (.table below)) (habove : at? path upper = some (.table above)) :
    at? path (overlay base upper) = some (.table (overlay below above)) := by
  rw [at?_overlay_of_upper hupper habove, hbelow]
  rfl

theorem at?_append_key {table entries : Table} (h : at? path table = some (.table entries)) (key : String) :
    at? (path ++ [key]) table = Keyed.find? key entries := by
  show (Value.table table).at? (path ++ [key]) = _
  rw [Value.at?_append, show (Value.table table).at? path = some (.table entries) from h]
  show (Keyed.find? key entries).bind (Value.at? []) = _
  cases Keyed.find? key entries <;> rfl

end Overlay

/-- what is where in `result` for `upper` laid over `base`, said by paths of any length -/
structure LaidOver (base upper result : Table) : Prop where
  /-- a value that is no table is the upper one's, or the lower one's where the upper one leaves room -/
  leaf : ∀ path value, ¬ value.IsTable → (at? path result = some value ↔
    at? path upper = some value ∨ (at? path base = some value ∧ at? path upper = none ∧ ¬ Shadowed path upper))
  /-- a table is where the upper one has one, or where the lower one has one and the upper one leaves room -/
  table : ∀ path, HoldsTable path result ↔
    HoldsTable path upper ∨ (HoldsTable path base ∧ at? path upper = none ∧ ¬ Shadowed path upper)
  /-- at a level where both are tables the keys are those of either -/
  keys : ∀ path key, HoldsTable path base → HoldsTable path upper →
    (at? (path ++ [key]) result ≠ none ↔ at? (path ++ [key]) base ≠ none ∨ at? (path ++ [key]) upper ≠ none)
  /-- nothing is there that neither holds -/
  fromEither : ∀ path, at? path result ≠ none → at? path base ≠ none ∨ at? path upper ≠ none
  /-- an empty table keeps the table below it -/
  emptyKeeps : ∀ path entries, at? path upper = some (.table []) → at? path base = some (.table entries) →
    at? path result = some (.table entries)
  /-- an empty table replaces anything else below it -/
  emptyReplaces : ∀ path value, at? path upper = some (.table []) → at? path base = some value → ¬ value.IsTable →
    at? path result = some (.table [])
  /-- an array replaces whatever is below it -/
  arrays : ∀ path items, at? path upper = some (.array items) → at? path result = some (.array items)

/-- **What overlaid tables hold, path by path.** -/
theorem overlay_pointwise (base upper : Table) (hupper : OrderedTable upper) :
    LaidOver base upper (overlay base upper) where
  leaf path value hleaf := by
    rw [at?_overlay_eq_some hupper]
    refine or_congr ⟨?_, fun hown => ⟨value, hown, overlayValue_leaf _ hleaf⟩⟩ Iff.rfl
    rintro ⟨own, hown, rfl⟩
    rw [overlayValue_leaf _ fun htable => hleaf (overlayValue_isTable.2 htable)]
    exact hown
  table path := by
    simp only [holdsTable_iff]
    constructor
    · rintro ⟨value, hvalue, htable⟩
      rcases (at?_overlay_eq_some hupper).1 hvalue with ⟨own, hown, rfl⟩ | ⟨hbase, hrest⟩
      · exact Or.inl ⟨own, hown, overlayValue_isTable.1 htable⟩
      · exact Or.inr ⟨⟨value, hbase, htable⟩, hrest⟩
    · rintro (⟨own, hown, htable⟩ | ⟨⟨value, hbase, htable⟩, hrest⟩)
      · exact ⟨_, at?_overlay_of_upper hupper hown, overlayValue_isTable.2 htable⟩
      · exact ⟨value, (at?_overlay_eq_some hupper).2 (Or.inr ⟨hbase, hrest⟩), htable⟩
  keys path key := by
    rintro ⟨below, hbelow⟩ ⟨above, habove⟩
    have hd := (hupper.toValue.at? habove).toTable.ascending.distinct
    rw [at?_append_key (at?_overlay_tables hupper hbelow habove), at?_append_key hbelow, at?_append_key habove,
      find?_overlay below hd]
    cases Keyed.find? key above <;> simp
  fromEither path hresult := by
    obtain ⟨value, hvalue⟩ := Option.ne_none_iff_exists'.1 hresult
    rcases (at?_overlay_eq_some hupper).1 hvalue with ⟨own, hown, -⟩ | ⟨hbase, -⟩
    · exact Or.inr (by simp [hown])
    · exact Or.inl (by simp [hbase])
  emptyKeeps path entries habove hbelow := at?_overlay_tables hupper hbelow habove
  emptyReplaces path value habove hbelow hleaf := by
    rw [at?_overlay_of_upper hupper habove, hbelow, overlayValue_over_leaf hleaf]
  arrays path items habove := at?_overlay_of_upper hupper habove

/-! Tables that meet in a table, in an array, and where only one of them has a table. -/

def nestedLower : Table := [
  ("level", .table [("debug", .table [("x", .integer 1)])]),
  ("list", .array [.integer 1]),
  ("shut", .table [("inner", .integer 2)]),
  ("whole", .integer 3)]

def nestedUpper : Table := [
  ("level", .table [("debug", .table []), ("error", .boolean true)]),
  ("list", .array [.integer 4, .integer 5]),
  ("shut", .integer 6),
  ("whole", .table [])]

theorem nestedUpper_ordered : OrderedTable nestedUpper :=
  ⟨by unfold Keyed.Ascending; decide, by simp [nestedUpper, Keyed.Ascending, -String.lt_iff_ltb]⟩

theorem nested_pointwise :
    OrderedTable nestedUpper ∧
    at? ["level", "debug", "x"] (overlay nestedLower nestedUpper) = some (.integer 1) ∧
    at? ["level", "error"] (overlay nestedLower nestedUpper) = some (.boolean true) ∧
    at? ["level", "debug"] (overlay nestedLower nestedUpper) = some (.table [("x", .integer 1)]) ∧
    at? ["list"] (overlay nestedLower nestedUpper) = some (.array [.integer 4, .integer 5]) ∧
    at? ["shut", "inner"] (overlay nestedLower nestedUpper) ≠ some (.integer 2) ∧
    at? ["whole"] (overlay nestedLower nestedUpper) = some (.table []) := by
  have h := overlay_pointwise nestedLower nestedUpper nestedUpper_ordered
  refine ⟨nestedUpper_ordered, ?_, ?_, ?_, ?_, ?_, ?_⟩
  · refine (h.leaf _ (.integer 1) not_false).2 (Or.inr ⟨rfl, rfl, fun hlevel => ?_⟩)
    -- the upper table has tables on the way and nothing at its end
    obtain ⟨_, hlevel, hdebug⟩ := Value.shadowed_table.1 hlevel
    cases hlevel
    obtain ⟨_, hdebug, hend⟩ := Value.shadowed_table.1 hdebug
    cases hdebug
    obtain ⟨_, hend, -⟩ := Value.shadowed_table.1 hend
    cases hend
  · exact (h.leaf _ (.boolean true) not_false).2 (Or.inl rfl)
  · exact h.emptyKeeps _ _ rfl rfl
  · exact h.arrays _ _ rfl
  · intro hinner
    rcases (h.leaf _ (.integer 2) not_false).1 hinner with hupper | ⟨-, -, hfree⟩
    · cases hupper
    · exact hfree ⟨["shut"], ⟨["inner"], rfl⟩, by decide, .integer 6, rfl, not_false⟩
  · exact h.emptyReplaces _ (.integer 3) rfl rfl not_false

end BlockProbe.Toml
