/-
Looking up in overlaid tables.

- `find?_overlay`: what is under a key of two overlaid tables depends on what both hold under it, and on nothing else.
- `overlay_ordered`: overlaying keeps tables in key order.
- `AlikeUnder.overlayValue`: values that are alike under some keys are alike once they are laid over such values.
-/
import BlockProbe.Proofs.Toml.Ordered
import BlockProbe.Toml.Overlay

namespace BlockProbe.Toml

/-- unless both are tables, the upper value is taken as it is -/
theorem overlayValue_of_not_table {below : Option Value} {value : Value}
    (h : ∀ base upper, below = some (.table base) ∧ value = .table upper → False) :
    overlayValue below value = value := by
  cases value with
  | table upper =>
    cases below with
    | none => rfl
    | some lower =>
      cases lower with
      | table base => exact (h base upper ⟨rfl, rfl⟩).elim
      | _ => rfl
  | _ => rfl

mutual

theorem overlay_ordered {base : Table} (hbase : OrderedTable base) :
    (upper : List (String × Value)) → (∀ entry ∈ upper, entry.2.Ordered) → OrderedTable (overlay base upper)
  | [], _ => hbase
  | entry :: rest, h => by
    rw [overlay]
    exact overlay_ordered (overlayEntry_ordered hbase entry (h entry List.mem_cons_self)) rest
      fun e he => h e (List.mem_cons_of_mem _ he)
termination_by structural upper => upper

theorem overlayEntry_ordered {base : Table} (hbase : OrderedTable base) :
    (entry : String × Value) → entry.2.Ordered → OrderedTable (overlayEntry base entry)
  | (key, value), h => by
    rw [overlayEntry]
    exact hbase.put key (overlayValue_ordered _ (fun _ hb => hbase.find? hb) value h)
termination_by structural entry => entry

theorem overlayValue_ordered (below : Option Value) (hbelow : ∀ value, below = some value → value.Ordered) :
    (value : Value) → value.Ordered → (overlayValue below value).Ordered
  | .table upper, h => by
    by_cases hb : ∃ base, below = some (.table base)
    · obtain ⟨base, rfl⟩ := hb
      exact (overlay_ordered (hbelow _ rfl).toTable upper h.toTable.values).toValue
    · rw [overlayValue_of_not_table fun base upper hb' => (hb ⟨base, hb'.1⟩).elim]
      exact h
  | .text text, h | .integer value, h | .float value, h | .boolean value, h | .moment value, h | .array items, h => h
termination_by structural value => value

end

theorem find?_overlayEntry (base : Table) (entry : String × Value) (key : String) :
    Keyed.find? key (overlayEntry base entry) =
      if entry.1 = key then some (overlayValue (Keyed.find? key base) entry.2) else Keyed.find? key base := by
  obtain ⟨k, value⟩ := entry
  rw [overlayEntry, Keyed.find?_put]
  split_ifs with h
  · subst h; rfl
  · rfl

/-- **What overlaid tables hold.** Under each key: the upper value, overlaid in turn if both are tables, and where the
upper table holds nothing what was there before. -/
theorem find?_overlay (base : Table) {upper : List (String × Value)} (hd : Keyed.Distinct upper) (key : String) :
    Keyed.find? key (overlay base upper) =
      match Keyed.find? key upper with
      | some value => some (overlayValue (Keyed.find? key base) value)
      | none => Keyed.find? key base := by
  induction upper generalizing base with
  | nil => rfl
  | cons entry rest ih =>
    obtain ⟨hnew, hrest⟩ := List.nodup_cons.1 hd
    rw [overlay, ih _ hrest, find?_overlayEntry, Keyed.find?]
    by_cases hk : entry.1 = key
    · have hnone : Keyed.find? key rest = none := by
        refine Keyed.find?_eq_none.2 fun e he hek => hnew ?_
        exact List.mem_map.2 ⟨e, he, hek.trans hk.symm⟩
      rw [hnone, if_pos hk, if_pos hk]
    · rw [if_neg hk, if_neg hk]

/-! ## Alike under some keys -/

/-- what overlaid tables hold under a key depends on what both hold under it -/
theorem find?_overlay_congr {first second upper other : Table} (hupper : Keyed.Distinct upper)
    (hother : Keyed.Distinct other) {key : String} (hbase : Keyed.find? key first = Keyed.find? key second)
    (h : Keyed.find? key upper = Keyed.find? key other) :
    Keyed.find? key (overlay first upper) = Keyed.find? key (overlay second other) := by
  rw [find?_overlay first hupper, find?_overlay second hother, hbase, h]

/-- two values, or none, that are the same, or tables that hold the same under some keys -/
inductive AlikeUnder (keys : String → Prop) : Option Value → Option Value → Prop
  | same (value : Option Value) : AlikeUnder keys value value
  | tables {first second : Table} (h : ∀ key, keys key → Keyed.find? key first = Keyed.find? key second) :
    AlikeUnder keys (some (.table first)) (some (.table second))

namespace AlikeUnder

variable {keys : String → Prop} {below belowOther : Option Value}

theorem find? {first second : Table} (h : AlikeUnder keys (some (.table first)) (some (.table second))) {key : String}
    (hkey : keys key) : Keyed.find? key first = Keyed.find? key second := by
  cases h with
  | same => rfl
  | tables h => exact h key hkey

/-- tables that are alike stay so over values that are alike -/
theorem overlayTable {upper other : Table} (hbelow : AlikeUnder keys below belowOther)
    (h : AlikeUnder keys (some (.table upper)) (some (.table other))) (hupper : Keyed.Distinct upper)
    (hother : Keyed.Distinct other) :
    AlikeUnder keys (some (overlayValue below (.table upper))) (some (overlayValue belowOther (.table other))) := by
  cases hbelow with
  | tables hbase =>
    exact .tables fun key hkey => find?_overlay_congr hupper hother (hbase key hkey) (h.find? hkey)
  | same =>
    by_cases htable : ∃ base, below = some (.table base)
    · obtain ⟨base, rfl⟩ := htable
      exact .tables fun key hkey => find?_overlay_congr hupper hother rfl (h.find? hkey)
    · have hown : ∀ upper, Toml.overlayValue below (.table upper) = .table upper := fun upper =>
        overlayValue_of_not_table fun base _ hb => htable ⟨base, hb.1⟩
      rw [hown, hown]
      exact h

/-- **Values that are alike stay so** when they are laid over values that are. -/
theorem overlayValue {value other : Value} (hbelow : AlikeUnder keys below belowOther)
    (h : AlikeUnder keys (some value) (some other)) (hvalue : value.Ordered) (hother : other.Ordered) :
    AlikeUnder keys (some (overlayValue below value)) (some (overlayValue belowOther other)) := by
  by_cases htable : ∃ upper, value = .table upper
  · obtain ⟨upper, rfl⟩ := htable
    have hdistinct := hvalue.toTable.ascending.distinct
    cases h with
    | same => exact hbelow.overlayTable (.same _) hdistinct hdistinct
    | tables h => exact hbelow.overlayTable (.tables h) hdistinct hother.toTable.ascending.distinct
  · have hown : ∀ below, Toml.overlayValue below value = value := fun below =>
      overlayValue_of_not_table fun _ upper hv => htable ⟨upper, hv.2⟩
    cases h with
    | same =>
      rw [hown, hown]
      exact .same _
    | tables h => exact (htable ⟨_, rfl⟩).elim

end AlikeUnder

end BlockProbe.Toml
