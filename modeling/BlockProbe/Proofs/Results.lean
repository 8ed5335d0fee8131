/-
Results that may fail, taken apart.

A chain of steps that comes to a result went through every step: `bind_eq_ok`, `map_eq_ok` and `mapError_eq_ok` name
what each step gave. `foldlM_find?` follows one component of a state through a chain of keyed steps of which only one
touches it. `foldlM_of_takes` and `foldlM_of_refused` go the other way, from what the steps do to what the chain comes
to. A chain that fails went as far as the step that failed (`foldlM_eq_error`). Where some items of a list fail there is
a first one (`all_or_first`), with the items before it in front (`split_before`).
-/
import BlockProbe.Files.Attempt
import BlockProbe.Proofs.Toml.Keyed

namespace BlockProbe

variable {ε ε' α β σ γ : Type}

theorem bind_eq_ok {result : Except ε α} {next : α → Except ε β} {value : β} :
    (result >>= next) = .ok value ↔ ∃ middle, result = .ok middle ∧ next middle = .ok value := by
  cases result with
  | error error => simp [bind, Except.bind]
  | ok middle => simp [bind, Except.bind]

theorem map_eq_ok {result : Except ε α} {f : α → β} {value : β} :
    result.map f = .ok value ↔ ∃ middle, result = .ok middle ∧ f middle = value := by
  cases result with
  | error error => simp [Except.map]
  | ok middle => simp [Except.map]

theorem mapError_eq_ok {result : Except ε α} {f : ε → ε'} {value : α} :
    result.mapError f = .ok value ↔ result = .ok value := by
  cases result with
  | error error => simp [Except.mapError]
  | ok middle => simp [Except.mapError]

theorem bind_eq_error {result : Except ε α} {next : α → Except ε β} {error : ε} :
    (result >>= next) = .error error ↔
      result = .error error ∨ ∃ middle, result = .ok middle ∧ next middle = .error error := by
  cases result with
  | error other => simp [bind, Except.bind]
  | ok middle => simp [bind, Except.bind]

theorem map_eq_error {result : Except ε α} {f : α → β} {error : ε} :
    result.map f = .error error ↔ result = .error error := by
  cases result with
  | error other => simp [Except.map]
  | ok middle => simp [Except.map]

theorem mapError_eq_error {result : Except ε α} {f : ε → ε'} {error : ε'} :
    result.mapError f = .error error ↔ ∃ cause, result = .error cause ∧ f cause = error := by
  cases result with
  | error other => simp [Except.mapError]
  | ok middle => simp [Except.mapError]

theorem error_of_not_ok {result : Except ε α} (h : ¬ ∃ value, result = .ok value) : ∃ error, result = .error error := by
  cases result with
  | error error => exact ⟨error, rfl⟩
  | ok value => exact (h ⟨value, rfl⟩).elim

theorem toOption_eq_some {result : Except ε α} {value : α} :
    result.toOption = some value ↔ result = .ok value := by
  cases result with
  | error error => simp [Except.toOption]
  | ok middle => simp [Except.toOption]

namespace Files.Attempt

@[simp] theorem done_bind (value : α) (next : α → Attempt ε β) : (Attempt.done value >>= next) = next value := rfl

@[simp] theorem failed_bind (error : ε) (next : α → Attempt ε β) : (Attempt.failed error >>= next) = .failed error :=
  rfl

@[simp] theorem waits_bind (next : α → Attempt ε β) : (Attempt.waits >>= next) = .waits := rfl

@[simp] theorem mapError_done (value : α) (change : ε → ε') :
    (Attempt.done value).mapError change = .done value := rfl

@[simp] theorem ofExcept_ok (value : α) : (Attempt.ofExcept (.ok value) : Attempt ε α) = .done value := rfl

theorem bind_eq_done {attempt : Attempt ε α} {next : α → Attempt ε β} {value : β} :
    (attempt >>= next) = .done value ↔ ∃ middle, attempt = .done middle ∧ next middle = .done value := by
  cases attempt with
  | done middle => simp
  | failed error => simp
  | waits => simp

/-- what does not hang comes to a result or a failure -/
theorem ofExcept_of_not_waits {attempt : Attempt ε α} (h : attempt ≠ .waits) :
    ∃ result, attempt = .ofExcept result := by
  cases attempt with
  | done value => exact ⟨.ok value, rfl⟩
  | failed error => exact ⟨.error error, rfl⟩
  | waits => exact (h rfl).elim

theorem bind_eq_failed {attempt : Attempt ε α} {next : α → Attempt ε β} {error : ε} :
    (attempt >>= next) = .failed error ↔
      attempt = .failed error ∨ ∃ middle, attempt = .done middle ∧ next middle = .failed error := by
  cases attempt with
  | done middle => simp
  | failed other => simp
  | waits => simp

/-- a step without a result of its own succeeds in front of what succeeds behind it -/
theorem then_eq_done {first : Attempt ε Unit} {next : Attempt ε β} {value : β} :
    (first >>= fun _ => next) = .done value ↔ first = .done () ∧ next = .done value := by
  cases first with
  | done _ => simp
  | failed error => simp
  | waits => simp

/-- and fails itself, or succeeds in front of what fails behind it -/
theorem then_eq_failed {first : Attempt ε Unit} {next : Attempt ε β} {error : ε} :
    (first >>= fun _ => next) = .failed error ↔
      first = .failed error ∨ (first = .done () ∧ next = .failed error) := by
  cases first with
  | done _ => simp
  | failed other => simp
  | waits => simp

theorem ofExcept_eq_done {result : Except ε α} {value : α} :
    (Attempt.ofExcept result : Attempt ε α) = .done value ↔ result = .ok value := by
  cases result <;> simp [ofExcept]

theorem mapError_eq_done {attempt : Attempt ε α} {change : ε → ε'} {value : α} :
    attempt.mapError change = .done value ↔ attempt = .done value := by
  cases attempt <;> simp [mapError]

theorem mapError_eq_failed {attempt : Attempt ε α} {change : ε → ε'} {error : ε'} :
    attempt.mapError change = .failed error ↔ ∃ fault, attempt = .failed fault ∧ change fault = error := by
  cases attempt <;> simp [mapError]

theorem ofExcept_bind (result : Except ε α) (next : α → Except ε β) :
    ((Attempt.ofExcept result : Attempt ε α) >>= fun value => Attempt.ofExcept (next value)) =
      Attempt.ofExcept (result >>= next) := by
  cases result <;> rfl

end Files.Attempt

/-- a fold that succeeds step by step, with steps that fail in another way -/
theorem foldlM_ok_imp {f : σ → α → Except ε σ} {g : σ → α → Except ε' σ}
    (hstep : ∀ state item next, f state item = .ok next → g state item = .ok next) {items : List α}
    {before after : σ} (h : items.foldlM f before = .ok after) : items.foldlM g before = .ok after := by
  induction items generalizing before with
  | nil => cases h; rfl
  | cons item rest ih =>
    rw [List.foldlM_cons] at h ⊢
    obtain ⟨middle, hfirst, h⟩ := bind_eq_ok.1 h
    exact bind_eq_ok.2 ⟨middle, hstep before item middle hfirst, ih h⟩

/-- what comes of a component for which there is an item or none: a step, or nothing changes -/
def Through (step : β → α → β → Prop) (source : Option α) (before after : β) : Prop :=
  match source with
  | some item => step before item after
  | none => after = before

/-- a step that comes to one result only comes to one from equal sources -/
theorem Through.unique {step : β → α → β → Prop}
    (hstep : ∀ before item after other, step before item after → step before item other → after = other)
    {source : Option α} {before after other : β} (h : Through step source before after)
    (hother : Through step source before other) : after = other := by
  cases source with
  | none => exact h.trans hother.symm
  | some item => exact hstep before item after other h hother

open Toml in
/-- Steps that each take one keyed entry, none of them twice the same key. If only the step of `key` touches a
component of the state, the component afterwards is what this step makes of the component before. -/
theorem foldlM_find? (take : σ → String × α → Except ε σ) (view : σ → β) (key : String) (step : β → α → β → Prop)
    (hkey : ∀ state value next, take state (key, value) = .ok next → step (view state) value (view next))
    (hother : ∀ state entry next, entry.1 ≠ key → take state entry = .ok next → view next = view state)
    {entries : List (String × α)} (hd : Keyed.Distinct entries) {before after : σ}
    (h : entries.foldlM take before = .ok after) :
    Through step (Keyed.find? key entries) (view before) (view after) := by
  induction entries generalizing before with
  | nil => cases h; rfl
  | cons entry rest ih =>
    obtain ⟨k, v⟩ := entry
    obtain ⟨hnew, hrest⟩ := List.nodup_cons.1 hd
    rw [List.foldlM_cons] at h
    obtain ⟨middle, hfirst, h⟩ := bind_eq_ok.1 h
    have hlater := ih hrest h
    rw [Keyed.find?]
    split_ifs with hk
    · subst hk
      have hnone : Keyed.find? k rest = none :=
        Keyed.find?_eq_none.2 fun e he hek => hnew (List.mem_map.2 ⟨e, he, hek⟩)
      rw [hnone] at hlater
      have hstep := hkey before v middle hfirst
      rwa [← show view after = view middle from hlater] at hstep
    · rw [← hother before (k, v) middle hk hfirst]
      exact hlater

/-- a fold whose steps succeed from whatever state -/
theorem foldlM_of_takes {take : σ → α → Except ε σ} {items : List α}
    (h : ∀ item ∈ items, ∀ state, ∃ next, take state item = .ok next) (before : σ) :
    ∃ after, items.foldlM take before = .ok after := by
  induction items generalizing before with
  | nil => exact ⟨before, rfl⟩
  | cons item rest ih =>
    obtain ⟨middle, hfirst⟩ := h item List.mem_cons_self before
    obtain ⟨after, hrest⟩ := ih (fun later hlater => h later (List.mem_cons_of_mem item hlater)) middle
    refine ⟨after, ?_⟩
    rw [List.foldlM_cons]
    exact bind_eq_ok.2 ⟨middle, hfirst, hrest⟩

/-- a fold with one step that fails from whatever state, where items are told apart by their keys -/
theorem foldlM_of_refused {take : σ → α → Except ε σ} (key : α → γ) {items : List α} (hd : (items.map key).Nodup)
    {item : α} (hmem : item ∈ items) {error : ε} (hitem : ∀ state, take state item = .error error)
    (hothers : ∀ other ∈ items, key other ≠ key item → ∀ state, ∃ next, take state other = .ok next) (before : σ) :
    items.foldlM take before = .error error := by
  obtain ⟨first, rest, rfl⟩ := List.append_of_mem hmem
  have hnew : ∀ earlier ∈ first, key earlier ≠ key item := by
    rw [List.map_append, List.nodup_append] at hd
    exact fun earlier hearlier => hd.2.2 _ (List.mem_map_of_mem hearlier) _ (by simp)
  have hfirst : ∀ earlier ∈ first, ∀ state, ∃ next, take state earlier = .ok next := fun earlier hearlier =>
    hothers earlier (List.mem_append_left _ hearlier) (hnew earlier hearlier)
  obtain ⟨middle, hmiddle⟩ := foldlM_of_takes hfirst before
  rw [List.foldlM_append, hmiddle]
  show (item :: rest).foldlM take middle = .error error
  rw [List.foldlM_cons, hitem]
  rfl

/-- a fold that fails got as far as an item whose step failed -/
theorem foldlM_eq_error {take : σ → α → Except ε σ} {items : List α} {before : σ} {error : ε}
    (h : items.foldlM take before = .error error) :
    ∃ first item rest middle, items = first ++ item :: rest ∧ first.foldlM take before = .ok middle ∧
      take middle item = .error error := by
  induction items generalizing before with
  | nil => cases h
  | cons head tail ih =>
    rw [List.foldlM_cons] at h
    rcases bind_eq_error.1 h with hhead | ⟨next, hhead, htail⟩
    · exact ⟨[], head, tail, before, rfl, rfl, hhead⟩
    · obtain ⟨first, item, rest, middle, rfl, hfirst, hitem⟩ := ih htail
      refine ⟨head :: first, item, rest, middle, rfl, ?_, hitem⟩
      rw [List.foldlM_cons]
      exact bind_eq_ok.2 ⟨next, hhead, hfirst⟩

/-- in a fold that succeeds every step does -/
theorem step_of_foldlM_ok {take : σ → α → Except ε σ} {items : List α} {before after : σ}
    (h : items.foldlM take before = .ok after) {item : α} (hmem : item ∈ items) :
    ∃ state next, take state item = .ok next := by
  induction items generalizing before with
  | nil => cases hmem
  | cons head tail ih =>
    rw [List.foldlM_cons] at h
    obtain ⟨middle, hhead, htail⟩ := bind_eq_ok.1 h
    rcases List.mem_cons.1 hmem with rfl | hmem
    · exact ⟨before, middle, hhead⟩
    · exact ih htail hmem

/-! ## The first that fails -/

section First

variable [DecidableEq α] {items : List α} {item : α}

/-- a list up to one of its items, from it on -/
theorem split_before (h : item ∈ items) : ∃ rest, items = items.takeWhile (· ≠ item) ++ item :: rest := by
  induction items with
  | nil => cases h
  | cons head tail ih =>
    by_cases hhead : head = item
    · subst hhead
      exact ⟨tail, by simp⟩
    · obtain ⟨rest, hrest⟩ := ih ((List.mem_cons.1 h).resolve_left (Ne.symm hhead))
      refine ⟨rest, ?_⟩
      rw [List.takeWhile_cons_of_pos (by simpa using hhead), List.cons_append, ← hrest]

/-- what comes before an item that comes before another comes before that one -/
theorem mem_before_trans {before after : α} (h : before ∈ items.takeWhile (· ≠ item))
    (hitem : item ∈ items.takeWhile (· ≠ after)) : before ∈ items.takeWhile (· ≠ after) := by
  induction items with
  | nil => cases h
  | cons head tail ih =>
    by_cases hhead : head = item
    · simp [hhead] at h
    · by_cases hafter : head = after
      · simp [hafter] at hitem
      · rw [List.takeWhile_cons_of_pos (by simpa using hhead)] at h
        rw [List.takeWhile_cons_of_pos (by simpa using hafter)] at hitem ⊢
        rcases List.mem_cons.1 h with rfl | h
        · exact List.mem_cons_self
        · exact List.mem_cons_of_mem head (ih h ((List.mem_cons.1 hitem).resolve_left (Ne.symm hhead)))

/-- where not all items are so, one of them is the first that is not -/
theorem all_or_first (p : α → Prop) (items : List α) :
    (∀ item ∈ items, p item) ∨ ∃ item ∈ items, ¬ p item ∧ ∀ earlier ∈ items.takeWhile (· ≠ item), p earlier := by
  induction items with
  | nil => exact .inl fun _ h => (List.not_mem_nil h).elim
  | cons head tail ih =>
    by_cases hhead : p head
    · rcases ih with hall | ⟨item, hitem, hnot, hfirst⟩
      · exact .inl (List.forall_mem_cons.2 ⟨hhead, hall⟩)
      · have hne : head ≠ item := fun h => hnot (h ▸ hhead)
        refine .inr ⟨item, List.mem_cons_of_mem head hitem, hnot, ?_⟩
        rw [List.takeWhile_cons_of_pos (by simpa using hne)]
        exact List.forall_mem_cons.2 ⟨hhead, hfirst⟩
    · exact .inr ⟨head, List.mem_cons_self, hhead, by simp⟩

end First

end BlockProbe
