/-
Laws of laying tables over each other.

Tables in key order are the same as soon as the same is found in them, so each law is shown for what is under one key
and lifted to tables by induction on the value laid on top.

- `overlay_nil`, `nil_overlay`, `overlay_self`, `overlay_again`: nothing new comes of nothing, or of the same again.
- `overlay_comm`: the order does not matter where the two meet in tables only.
- `overlay_assoc`: the grouping does not matter unless something that is no table stands between two tables.
-/
import BlockProbe.Proofs.Toml.Paths

namespace BlockProbe.Toml

/-- tables in key order in which the same is found are the same -/
theorem OrderedTable.ext {first second : Table} (hfirst : OrderedTable first) (hsecond : OrderedTable second)
    (h : ∀ key, Keyed.find? key first = Keyed.find? key second) : first = second :=
  hfirst.ascending.ext hsecond.ascending h

theorem OrderedTable.overlay {base upper : Table} (hbase : OrderedTable base) (hupper : OrderedTable upper) :
    OrderedTable (overlay base upper) := overlay_ordered hbase upper hupper.values

theorem OrderedTable.distinct {table : Table} (h : OrderedTable table) : Keyed.Distinct table := h.ascending.distinct

/-! ## Nothing, and the same again -/

theorem overlay_nil (table : Table) : overlay table [] = table := rfl

theorem nil_overlay {table : Table} (h : OrderedTable table) : overlay [] table = table := by
  refine (OrderedTable.nil.overlay h).ext h fun key => ?_
  rw [find?_overlay _ h.distinct]
  cases Keyed.find? key table <;> simp [Keyed.find?]

theorem overlayValue_self {value : Value} (h : value.Ordered) : overlayValue (some value) value = value := by
  induction h with
  | @table entries hascending hvalues ih =>
    have hentries : OrderedTable entries := ⟨hascending, hvalues⟩
    refine congrArg Value.table ((hentries.overlay hentries).ext hentries fun key => ?_)
    rw [find?_overlay _ hentries.distinct]
    cases hkey : Keyed.find? key entries with
    | none => rfl
    | some value => exact congrArg some (ih _ (Keyed.mem_of_find? hkey))
  | _ => rfl

/-- **A table over itself is itself.** -/
theorem overlay_self {table : Table} (h : OrderedTable table) : overlay table table = table :=
  Value.table.inj (overlayValue_self h.toValue)

theorem overlayValue_again {value : Value} (h : value.Ordered) :
    ∀ below : Option Value, (∀ lower, below = some lower → lower.Ordered) →
      overlayValue (some (overlayValue below value)) value = overlayValue below value := by
  induction h with
  | @table upper hascending hvalues ih =>
    intro below hbelow
    have hupper : OrderedTable upper := ⟨hascending, hvalues⟩
    by_cases htable : ∃ base, below = some (.table base)
    · obtain ⟨base, rfl⟩ := htable
      have hbase := (hbelow _ rfl).toTable
      have hover := hbase.overlay hupper
      refine congrArg Value.table ((hover.overlay hupper).ext hover fun key => ?_)
      rw [find?_overlay _ hupper.distinct, find?_overlay _ hupper.distinct]
      cases hkey : Keyed.find? key upper with
      | none => rfl
      | some value => exact congrArg some (ih _ (Keyed.mem_of_find? hkey) _ fun _ hlower => hbase.find? hlower)
    · rw [overlayValue_of_not_table fun base _ hb => htable ⟨base, hb.1⟩]
      exact overlayValue_self hupper.toValue
  | _ => exact fun _ _ => rfl

/-- **The same table laid on once more changes nothing.** -/
theorem overlay_again {base upper : Table} (hbase : OrderedTable base) (hupper : OrderedTable upper) :
    overlay (overlay base upper) upper = overlay base upper :=
  Value.table.inj (overlayValue_again hupper.toValue (some (.table base))
    fun _ hlower => Option.some.inj hlower ▸ hbase.toValue)

/-! ## Order -/

/-- wherever both values hold something, both hold tables -/
def Value.MeetInTables (first second : Value) : Prop :=
  ∀ path value other, first.at? path = some value → second.at? path = some other → value.IsTable ∧ other.IsTable

/-- wherever both tables hold something, both hold tables -/
def MeetInTables (first second : Table) : Prop := (Value.table first).MeetInTables (.table second)

/-- two tables meet in tables only if what they hold under each key does -/
theorem Value.meetInTables_table {first second : Table} :
    (Value.table first).MeetInTables (.table second) ↔
      ∀ key value other, Keyed.find? key first = some value → Keyed.find? key second = some other →
        value.MeetInTables other := by
  constructor
  · intro h key value other hvalue hother path met meets hmet hmeets
    refine h (key :: path) met meets ?_ ?_
    · exact Option.bind_eq_some_iff.2 ⟨value, hvalue, hmet⟩
    · exact Option.bind_eq_some_iff.2 ⟨other, hother, hmeets⟩
  · intro h path met meets hmet hmeets
    cases path with
    | nil => cases hmet; cases hmeets; exact ⟨trivial, trivial⟩
    | cons key path =>
      obtain ⟨value, hvalue, hmet⟩ := Option.bind_eq_some_iff.1 hmet
      obtain ⟨other, hother, hmeets⟩ := Option.bind_eq_some_iff.1 hmeets
      exact h key value other hvalue hother path met meets hmet hmeets

theorem overlayValue_comm {first : Value} (hfirst : first.Ordered) : ∀ {second : Value}, second.Ordered →
    first.MeetInTables second → overlayValue (some first) second = overlayValue (some second) first := by
  induction hfirst with
  | @table entries hascending hvalues ih =>
    intro second hsecond hmeet
    obtain ⟨others, rfl⟩ := Value.isTable_iff.1 (hmeet [] _ _ rfl rfl).2
    have hentries : OrderedTable entries := ⟨hascending, hvalues⟩
    have hothers := hsecond.toTable
    refine congrArg Value.table ((hentries.overlay hothers).ext (hothers.overlay hentries) fun key => ?_)
    rw [find?_overlay _ hothers.distinct, find?_overlay _ hentries.distinct]
    cases hkey : Keyed.find? key entries with
    | none => cases Keyed.find? key others <;> simp
    | some value =>
      cases hother : Keyed.find? key others with
      | none => simp
      | some other =>
        exact congrArg some (ih _ (Keyed.mem_of_find? hkey) (hothers.find? hother)
          (Value.meetInTables_table.1 hmeet key _ _ hkey hother))
  | _ =>
    intro second _ hmeet
    exact (hmeet [] _ _ rfl rfl).1.elim

/-- **Tables that meet in tables only can be laid over each other in either order.** -/
theorem overlay_comm {first second : Table} (hfirst : OrderedTable first) (hsecond : OrderedTable second)
    (h : MeetInTables first second) : overlay first second = overlay second first :=
  Value.table.inj (overlayValue_comm hfirst.toValue hsecond.toValue h)

/-! ## Grouping -/

/-- somewhere the lower and the upper value hold tables and the middle one holds something that is none -/
def Value.LeafBetween (lower middle upper : Value) : Prop :=
  ∃ path low leaf high, lower.at? path = some low ∧ low.IsTable ∧ upper.at? path = some high ∧ high.IsTable ∧
    middle.at? path = some leaf ∧ ¬ leaf.IsTable

/-- somewhere the lower and the upper table hold tables and the middle one holds something that is none -/
def LeafBetween (lower middle upper : Table) : Prop :=
  Value.LeafBetween (.table lower) (.table middle) (.table upper)

/-- in tables it stands under a key of all three -/
theorem Value.leafBetween_table {lower middle upper : Table} :
    Value.LeafBetween (.table lower) (.table middle) (.table upper) ↔
      ∃ key low mid high, Keyed.find? key lower = some low ∧ Keyed.find? key middle = some mid ∧
        Keyed.find? key upper = some high ∧ Value.LeafBetween low mid high := by
  constructor
  · rintro ⟨path, first, leaf, last, hfirst, htable, hlast, htable', hleaf, hnot⟩
    cases path with
    | nil => cases hleaf; exact (hnot trivial).elim
    | cons key path =>
      obtain ⟨low, hlow, hfirst⟩ := Option.bind_eq_some_iff.1 hfirst
      obtain ⟨mid, hmid, hleaf⟩ := Option.bind_eq_some_iff.1 hleaf
      obtain ⟨high, hhigh, hlast⟩ := Option.bind_eq_some_iff.1 hlast
      exact ⟨key, low, mid, high, hlow, hmid, hhigh,
        path, first, leaf, last, hfirst, htable, hlast, htable', hleaf, hnot⟩
  · rintro ⟨key, low, mid, high, hlow, hmid, hhigh,
      path, first, leaf, last, hfirst, htable, hlast, htable', hleaf, hnot⟩
    exact ⟨key :: path, first, leaf, last, Option.bind_eq_some_iff.2 ⟨low, hlow, hfirst⟩, htable,
      Option.bind_eq_some_iff.2 ⟨high, hhigh, hlast⟩, htable', Option.bind_eq_some_iff.2 ⟨mid, hmid, hleaf⟩, hnot⟩

theorem overlayValue_assoc {upper : Value} (hupper : upper.Ordered) : ∀ {lower middle : Value}, lower.Ordered →
    middle.Ordered → ¬ Value.LeafBetween lower middle upper →
    overlayValue (some (overlayValue (some lower) middle)) upper =
      overlayValue (some lower) (overlayValue (some middle) upper) := by
  induction hupper with
  | @table above hascending hvalues ih =>
    intro lower middle hlower hmiddle hbetween
    have habove : OrderedTable above := ⟨hascending, hvalues⟩
    by_cases hmid : middle.IsTable
    swap
    · -- the lower value is no table either, so the upper one replaces both
      have hlow : ¬ lower.IsTable := fun hlow => hbetween ⟨[], _, _, _, rfl, hlow, rfl, trivial, rfl, hmid⟩
      rw [overlayValue_leaf _ hmid, overlayValue_over_leaf hmid, overlayValue_over_leaf hlow]
    obtain ⟨mid, rfl⟩ := Value.isTable_iff.1 hmid
    by_cases hlow : lower.IsTable
    swap
    · rw [overlayValue_over_leaf hlow, overlayValue_over_leaf hlow]
    obtain ⟨low, rfl⟩ := Value.isTable_iff.1 hlow
    have hlows := hlower.toTable
    have hmids := hmiddle.toTable
    have hupper := hmids.overlay habove
    refine congrArg Value.table
      (((hlows.overlay hmids).overlay habove).ext (hlows.overlay hupper) fun key => ?_)
    rw [find?_overlay _ habove.distinct, find?_overlay _ hmids.distinct, find?_overlay _ hupper.distinct,
      find?_overlay _ habove.distinct]
    cases hhigh : Keyed.find? key above with
    | none => rfl
    | some high =>
      cases hmid : Keyed.find? key mid with
      | none => simp
      | some middle =>
        cases hlow : Keyed.find? key low with
        | none => simp
        | some lower =>
          exact congrArg some (ih _ (Keyed.mem_of_find? hhigh) (hlows.find? hlow) (hmids.find? hmid)
            fun h => hbetween (Value.leafBetween_table.2 ⟨key, lower, middle, high, hlow, hmid, hhigh, h⟩))
  | _ => exact fun _ _ _ => rfl

/-- **Three tables can be grouped either way** unless something that is no table stands between two tables. -/
theorem overlay_assoc {lower middle upper : Table} (hlower : OrderedTable lower) (hmiddle : OrderedTable middle)
    (hupper : OrderedTable upper) (h : ¬ LeafBetween lower middle upper) :
    overlay (overlay lower middle) upper = overlay lower (overlay middle upper) :=
  Value.table.inj (overlayValue_assoc hupper.toValue hlower.toValue hmiddle.toValue h)

end BlockProbe.Toml
