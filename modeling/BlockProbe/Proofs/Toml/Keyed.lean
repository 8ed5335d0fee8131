/-
Look-ups in association lists.

- `find?_put`: setting one key changes what is found under that key and nothing else.
- `ascending_put`: a list in ascending key order stays in it.
- `Ascending.ext`: two lists in ascending key order in which the same is found are the same list.
- `find?_inOrder`: putting a list in key order leaves what is found in it.
-/
import BlockProbe.Toml.Keyed
import Mathlib.Data.String.Basic
import Mathlib.Tactic.Common

namespace BlockProbe.Toml.Keyed

variable {α : Type}

/-- keys in ascending order, each once -/
def Ascending (entries : List (String × α)) : Prop := entries.Pairwise fun a b => a.1 < b.1

/-- keys in any order, each once -/
def Distinct (entries : List (String × α)) : Prop := (entries.map Prod.fst).Nodup

theorem Ascending.distinct {entries : List (String × α)} (h : Ascending entries) : Distinct entries := by
  unfold Distinct List.Nodup
  rw [List.pairwise_map]
  exact h.imp fun hlt => ne_of_lt hlt

theorem find?_eq_none {key : String} {entries : List (String × α)} :
    find? key entries = none ↔ ∀ entry ∈ entries, entry.1 ≠ key := by
  induction entries with
  | nil => simp [find?]
  | cons entry rest ih =>
    obtain ⟨k, v⟩ := entry
    simp only [find?, List.forall_mem_cons]
    split_ifs with h
    · simp [h]
    · simp [h, ih]

theorem mem_of_find? {key : String} {value : α} {entries : List (String × α)}
    (h : find? key entries = some value) : (key, value) ∈ entries := by
  induction entries with
  | nil => simp [find?] at h
  | cons entry rest ih =>
    obtain ⟨k, v⟩ := entry
    simp only [find?] at h
    split_ifs at h with hk
    · cases h; subst hk; exact List.mem_cons_self
    · exact List.mem_cons_of_mem _ (ih h)

theorem find?_of_mem {entries : List (String × α)} (hd : Distinct entries) {key : String} {value : α}
    (h : (key, value) ∈ entries) : find? key entries = some value := by
  induction entries with
  | nil => cases h
  | cons entry rest ih =>
    obtain ⟨k, v⟩ := entry
    obtain ⟨hnew, hrest⟩ := List.nodup_cons.1 hd
    rw [find?]
    rcases List.mem_cons.1 h with h | h
    · cases h
      rw [if_pos rfl]
    · have hne : k ≠ key := by
        rintro rfl
        exact hnew (List.mem_map.2 ⟨_, h, rfl⟩)
      rw [if_neg hne]
      exact ih hrest h

/-- items listed under keys of their own -/
theorem distinct_zip {keys : List String} (h : keys.Nodup) (items : List α) : Distinct (keys.zip items) := by
  induction keys generalizing items with
  | nil => exact List.nodup_nil
  | cons key keys ih =>
    obtain ⟨hnew, hkeys⟩ := List.nodup_cons.1 h
    cases items with
    | nil => exact List.nodup_nil
    | cons item items =>
      refine List.nodup_cons.2 ⟨fun hmem => ?_, ih hkeys items⟩
      obtain ⟨⟨k, v⟩, hzip, rfl⟩ := List.mem_map.1 hmem
      exact hnew (List.of_mem_zip hzip).1

/-! ## Setting a key -/

@[simp] theorem find?_put (k key : String) (value : α) (entries : List (String × α)) :
    find? k (put key value entries) = if key = k then some value else find? k entries := by
  induction entries with
  | nil => simp [put, find?]
  | cons entry rest ih =>
    obtain ⟨k', v⟩ := entry
    simp only [put]
    by_cases h1 : key = k'
    · subst h1
      rw [if_pos rfl]
      by_cases h2 : key = k <;> simp [find?, h2]
    · rw [if_neg h1]
      split_ifs with h3 h4 h4
      · simp [find?, h4]
      · simp [find?, h4]
      · subst h4
        simp [find?, Ne.symm h1, ih]
      · simp [find?, ih, h4]

theorem mem_put {key : String} {value : α} {entries : List (String × α)} {entry : String × α}
    (h : entry ∈ put key value entries) : entry = (key, value) ∨ entry ∈ entries := by
  induction entries with
  | nil => simpa [put] using h
  | cons head rest ih =>
    obtain ⟨k, v⟩ := head
    simp only [put] at h
    split_ifs at h with h1 h2
    · rcases List.mem_cons.1 h with h | h
      · exact Or.inl h
      · exact Or.inr (List.mem_cons_of_mem _ h)
    · exact List.mem_cons.1 h
    · rcases List.mem_cons.1 h with h | h
      · exact Or.inr (h ▸ List.mem_cons_self)
      · exact (ih h).imp id (List.mem_cons_of_mem _)

theorem ascending_put (key : String) (value : α) {entries : List (String × α)} (h : Ascending entries) :
    Ascending (put key value entries) := by
  induction entries with
  | nil => simp [put, Ascending]
  | cons head rest ih =>
    obtain ⟨k, v⟩ := head
    obtain ⟨hhead, hrest⟩ := List.pairwise_cons.1 h
    simp only [put]
    split_ifs with h1 h2
    · subst h1; exact List.pairwise_cons.2 ⟨hhead, hrest⟩
    · refine List.pairwise_cons.2 ⟨fun entry he => ?_, h⟩
      rcases List.mem_cons.1 he with rfl | he
      · exact h2
      · exact lt_trans h2 (hhead entry he)
    · have hlt : k < key := lt_of_le_of_ne (not_lt.1 h2) (Ne.symm h1)
      refine List.pairwise_cons.2 ⟨fun entry he => ?_, ih hrest⟩
      rcases mem_put he with rfl | he
      · exact hlt
      · exact hhead entry he

/-! ## Lists with the same look-ups -/

/-- a key below all keys of a list is not in it -/
theorem find?_of_below {key : String} {entries : List (String × α)} (h : ∀ entry ∈ entries, key < entry.1) :
    find? key entries = none :=
  find?_eq_none.2 fun entry hentry => (h entry hentry).ne'

/-- nothing is found below the first key -/
theorem Ascending.head_le {k key : String} {v value : α} {rest : List (String × α)} (h : Ascending ((k, v) :: rest))
    (hfound : find? key ((k, v) :: rest) = some value) : k ≤ key := by
  rcases List.mem_cons.1 (mem_of_find? hfound) with heq | hrest
  · cases heq; exact le_rfl
  · exact ((List.pairwise_cons.1 h).1 _ hrest).le

/-- **Lists in key order are determined by what is found in them.** -/
theorem Ascending.ext {first second : List (String × α)} (hfirst : Ascending first) (hsecond : Ascending second)
    (h : ∀ key, find? key first = find? key second) : first = second := by
  induction first generalizing second with
  | nil =>
    cases second with
    | nil => rfl
    | cons other others => have hother := h other.1; simp [find?] at hother
  | cons entry rest ih =>
    cases second with
    | nil => have hentry := h entry.1; simp [find?] at hentry
    | cons other others =>
      obtain ⟨k, v⟩ := entry
      obtain ⟨k', v'⟩ := other
      have hkey : k = k' := by
        have hown : find? k ((k', v') :: others) = some v := by rw [← h k, find?, if_pos rfl]
        have hother : find? k' ((k, v) :: rest) = some v' := by rw [h k', find?, if_pos rfl]
        exact le_antisymm (hfirst.head_le hother) (hsecond.head_le hown)
      subst hkey
      have hvalue : v = v' := by simpa [find?] using h k
      subst hvalue
      obtain ⟨hbelow, hrest⟩ := List.pairwise_cons.1 hfirst
      obtain ⟨hbelow', hothers⟩ := List.pairwise_cons.1 hsecond
      rw [ih hrest hothers fun key => ?_]
      by_cases hk : k = key
      · subst hk
        rw [find?_of_below hbelow, find?_of_below hbelow']
      · simpa [find?, hk] using h key

/-! ## Putting a list in key order -/

/-- the same keys with the same values in ascending order; of several values under one key the first -/
def inOrder (entries : List (String × α)) : List (String × α) :=
  entries.foldr (fun entry ordered => put entry.1 entry.2 ordered) []

@[simp] theorem find?_inOrder (key : String) (entries : List (String × α)) :
    find? key (inOrder entries) = find? key entries := by
  induction entries with
  | nil => rfl
  | cons entry rest ih =>
    show find? key (put entry.1 entry.2 (inOrder rest)) = _
    rw [find?_put, ih]
    rfl

theorem ascending_inOrder (entries : List (String × α)) : Ascending (inOrder entries) := by
  induction entries with
  | nil => exact List.Pairwise.nil
  | cons entry rest ih => exact ascending_put entry.1 entry.2 ih

theorem mem_of_mem_inOrder {entries : List (String × α)} {entry : String × α} (h : entry ∈ inOrder entries) :
    entry ∈ entries := by
  induction entries with
  | nil => exact h
  | cons head rest ih =>
    rcases mem_put h with rfl | hrest
    · exact List.mem_cons_self
    · exact List.mem_cons_of_mem _ (ih hrest)

end BlockProbe.Toml.Keyed
