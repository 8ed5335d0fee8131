/-
Tables that settings can be decoded from.

`Fits` says so of a table without decoding it: its sections are tables, or arrays that are not too long, and every
setting takes the value it is given. Some settings may be skipped.

- `Section.read_of_fits`, `decode_of_fits`: what fits, nothing skipped, is decoded.
- `Section.read_of_refused`, `decode_of_refused`: where all but one setting fit, that setting's flaw is reported, with
  its place.
- `overrides_of_fit`: variables that can all be read leave settings.
-/
import BlockProbe.Proofs.Settings.Decode
import BlockProbe.Proofs.Settings.Overrides
import Mathlib.Data.List.Zip

namespace BlockProbe.Settings

open BlockProbe.Toml

/-! ## Settings -/

namespace Setting

variable {α β : Type}

/-- the setting takes the value, whatever was there before -/
def Takes (setting : Setting α) (value : Value) : Prop := ∀ before, ∃ after, setting.set value before = .ok after

/-- the setting refuses the value for this flaw, whatever was there before -/
def Refuses (setting : Setting α) (value : Value) (flaw : Flaw) : Prop :=
  ∀ before, setting.set value before = .error flaw

theorem of_takes {key : String} {read : Value → Except Flaw β} (store : α → β → α) {value : Value} {stored : β}
    (h : read value = .ok stored) : (Setting.of key read store).Takes value := by
  intro before
  exact ⟨store before stored, map_eq_ok.2 ⟨stored, h, rfl⟩⟩

theorem of_refuses {key : String} {read : Value → Except Flaw β} (store : α → β → α) {value : Value} {flaw : Flaw}
    (h : read value = .error flaw) : (Setting.of key read store).Refuses value flaw := by
  intro before
  show (read value).map (store before) = .error flaw
  rw [h]
  rfl

end Setting

/-! ## Sections -/

namespace Section

variable {α : Type} {part : Section α} {skipped : String → Prop} {value : Value}

/-- a table, or an array with no more items than there are settings -/
def HasShape (part : Section α) : Value → Prop
  | .table _ => True
  | .array items => items.length ≤ part.settings.length
  | _ => False

/-- a value that gives the section's settings, the skipped ones apart, values that they take -/
structure Fits (part : Section α) (skipped : String → Prop) (value : Value) : Prop where
  shape : part.HasShape value
  takes : ∀ setting ∈ part.settings, ¬ skipped setting.key →
    ∀ given, (setting.key, given) ∈ part.given value → setting.Takes given

theorem HasDistinctKeys.eq_of_key (hd : part.HasDistinctKeys) {setting other : Setting α}
    (hmem : setting ∈ part.settings) (hother : other ∈ part.settings) (hkey : setting.key = other.key) :
    setting = other := by
  have hfind := find?_setting hd hmem
  rw [hkey, find?_setting hd hother] at hfind
  exact (Option.some.inj hfind).symm

theorem Fits.mono {other : String → Prop} (h : part.Fits skipped value) (hskipped : ∀ key, skipped key → other key) :
    part.Fits other value :=
  ⟨h.shape, fun setting hmem hnot => h.takes setting hmem fun hskip => hnot (hskipped setting.key hskip)⟩

/-- a section that fits but for one setting fits if that setting takes its value too -/
theorem Fits.complete (hd : part.HasDistinctKeys) {setting : Setting α} (hmem : setting ∈ part.settings)
    (h : part.Fits (· = setting.key) value)
    (htakes : ∀ given, (setting.key, given) ∈ part.given value → setting.Takes given) :
    part.Fits (fun _ => False) value where
  shape := h.shape
  takes other hother _ given hgiven := by
    by_cases hkey : other.key = setting.key
    · cases hd.eq_of_key hother hmem hkey
      exact htakes given hgiven
    · exact h.takes other hother hkey given hgiven

/-- a table with one entry gives no other setting -/
theorem fits_single (part : Section α) (key : String) (given : Value) :
    part.Fits (· = key) (.table [(key, given)]) :=
  ⟨trivial, fun _ _ hnot _ hgiven => (hnot (Prod.mk.inj (List.mem_singleton.1 hgiven)).1).elim⟩

/-- the place that a flaw of a setting is reported at: an item of an array has none of its own -/
def placeOf (path : List String) (key : String) : Value → List String
  | .table _ => path ++ [key]
  | _ => path

theorem takeEntry_of_takes {entry : String × Value}
    (h : ∀ setting ∈ part.settings, setting.key = entry.1 → setting.Takes entry.2) (path : List String) (before : α) :
    ∃ after, part.takeEntry path before entry = .ok after := by
  unfold takeEntry
  cases hfind : part.settings.find? fun setting => setting.key == entry.1 with
  | none => exact ⟨before, rfl⟩
  | some setting =>
    have hkey : setting.key = entry.1 := by simpa using List.find?_some hfind
    obtain ⟨after, hset⟩ := h setting (List.mem_of_find?_eq_some hfind) hkey before
    exact ⟨after, mapError_eq_ok.2 hset⟩

theorem takeEntry_of_refuses (hd : part.HasDistinctKeys) {setting : Setting α} (hmem : setting ∈ part.settings)
    {flaw : Flaw} (h : setting.Refuses value flaw) (path : List String) (before : α) :
    part.takeEntry path before (setting.key, value) = .error { flaw, path := path ++ [setting.key] } := by
  unfold takeEntry
  rw [find?_setting hd hmem]
  dsimp only
  rw [h before]
  rfl

theorem takeItem_of_takes {item : Value × Setting α} (h : item.2.Takes item.1) (path : List String) (before : α) :
    ∃ after, takeItem path before item = .ok after := by
  obtain ⟨after, hset⟩ := h before
  exact ⟨after, mapError_eq_ok.2 hset⟩

theorem takeItem_of_refuses {item : Value × Setting α} {flaw : Flaw} (h : item.2.Refuses item.1 flaw)
    (path : List String) (before : α) : takeItem path before item = .error { flaw, path } := by
  unfold takeItem
  rw [h before]
  rfl

/-- what an array gives are its items, under the keys of their settings -/
theorem mem_given_array {items : List Value} {entry : String × Value} :
    entry ∈ part.given (.array items) ↔
      ∃ setting, (entry.2, setting) ∈ items.zip part.settings ∧ setting.key = entry.1 := by
  show entry ∈ (part.settings.map Setting.key).zip items ↔ _
  rw [List.zip_map_left, ← List.zip_swap part.settings items]
  simp only [List.mem_map, Prod.exists, Prod.swap_prod_mk, Prod.map_apply, id_eq, Prod.mk.injEq]
  constructor
  · rintro ⟨setting, item, hmem, rfl⟩
    exact ⟨setting, ⟨setting, item, hmem, rfl, rfl⟩, rfl⟩
  · rintro ⟨_, ⟨setting, item, hmem, hitem, rfl⟩, hkey⟩
    exact ⟨setting, item, hmem, by rw [hkey, hitem]⟩

/-- **A section that fits is read.** -/
theorem read_of_fits (h : part.Fits (fun _ => False) value) (path : List String) (before : α) :
    ∃ after, part.read path before value = .ok after := by
  cases value with
  | table entries =>
    refine foldlM_of_takes (fun entry hentry => takeEntry_of_takes (fun setting hsetting hkey => ?_) path) before
    exact h.takes setting hsetting not_false entry.2 (hkey ▸ hentry)
  | array items =>
    obtain ⟨after, hafter⟩ := foldlM_of_takes (fun item hitem => takeItem_of_takes
      (h.takes item.2 (List.of_mem_zip hitem).2 not_false item.1 (mem_given_array.2 ⟨item.2, hitem, rfl⟩)) path) before
    refine ⟨after, bind_eq_ok.2 ⟨after, hafter, ?_⟩⟩
    exact if_neg (not_lt.2 h.shape)
  | _ => exact h.shape.elim

theorem nodup_zip_keys (hd : part.HasDistinctKeys) (items : List Value) :
    ((items.zip part.settings).map fun item => item.2.key).Nodup := by
  have hzip := Keyed.distinct_zip hd items
  have hkeys : ((items.zip part.settings).map fun item => item.2.key) =
      ((part.settings.map Setting.key).zip items).map Prod.fst := by
    rw [List.zip_map_left, ← List.zip_swap part.settings items, List.map_map, List.map_map]
    rfl
  rw [hkeys]
  exact hzip

/-- **One setting that refuses its value** is reported, if all others take theirs. -/
theorem read_of_refused (hd : part.HasDistinctKeys) {setting : Setting α} (hmem : setting ∈ part.settings)
    (hv : value.Ordered) (h : part.Fits (· = setting.key) value) {given : Value}
    (hgiven : (setting.key, given) ∈ part.given value) {flaw : Flaw} (hrefuses : setting.Refuses given flaw)
    (path : List String) (before : α) :
    part.read path before value = .error { flaw, path := placeOf path setting.key value } := by
  cases value with
  | table entries =>
    refine foldlM_of_refused Prod.fst hv.toTable.ascending.distinct hgiven
      (takeEntry_of_refuses hd hmem hrefuses path) (fun entry hentry hne => ?_) before
    refine takeEntry_of_takes (fun other hother hkey => ?_) path
    exact h.takes other hother (hkey.trans_ne hne) entry.2 (hkey ▸ hentry)
  | array items =>
    have hitem : (given, setting) ∈ items.zip part.settings := by
      obtain ⟨other, hother, hkey⟩ := mem_given_array.1 hgiven
      rwa [hd.eq_of_key (List.of_mem_zip hother).2 hmem hkey] at hother
    have hrefused := foldlM_of_refused (fun item : Value × Setting α => item.2.key) (nodup_zip_keys hd items) hitem
      (takeItem_of_refuses hrefuses path) (fun item hother hne => takeItem_of_takes
        (h.takes item.2 (List.of_mem_zip hother).2 hne item.1 (mem_given_array.2 ⟨item.2, hother, rfl⟩)) path) before
    show ((items.zip part.settings).foldlM (takeItem path) before >>= _) = _
    rw [hrefused]
    rfl
  | _ => exact h.shape.elim

end Section

/-! ## The whole table -/

/-- a table whose sections fit, the skipped settings apart -/
structure Fits (skipped : List (String × String)) (table : Table) : Prop where
  probe : ∀ value, ("probe", value) ∈ table → probeSection.Fits (fun key => ("probe", key) ∈ skipped) value
  heartbeat : ∀ value, ("heartbeat", value) ∈ table →
    heartbeatSection.Fits (fun key => ("heartbeat", key) ∈ skipped) value
  log : ∀ value, ("log", value) ∈ table → logSection.Fits (fun key => ("log", key) ∈ skipped) value

/-- an entry is taken if the section that it is named for, if any, is read -/
theorem takeSection_of_reads {entry : String × Value}
    (hprobe : entry.1 = "probe" → ∀ before, ∃ after, probeSection.read ["probe"] before entry.2 = .ok after)
    (hheartbeat : entry.1 = "heartbeat" →
      ∀ before, ∃ after, heartbeatSection.read ["heartbeat"] before entry.2 = .ok after)
    (hlog : entry.1 = "log" → ∀ before, ∃ after, logSection.read ["log"] before entry.2 = .ok after)
    (before : Settings) : ∃ after, takeSection before entry = .ok after := by
  unfold takeSection
  split_ifs with hname hname hname
  · obtain ⟨probe, hread⟩ := hprobe hname before.probe
    exact ⟨_, map_eq_ok.2 ⟨probe, hname ▸ hread, rfl⟩⟩
  · obtain ⟨heartbeat, hread⟩ := hheartbeat hname before.heartbeat
    exact ⟨_, map_eq_ok.2 ⟨heartbeat, hname ▸ hread, rfl⟩⟩
  · obtain ⟨log, hread⟩ := hlog hname before.log
    exact ⟨_, map_eq_ok.2 ⟨log, hname ▸ hread, rfl⟩⟩
  · exact ⟨before, rfl⟩

variable {skipped : List (String × String)} {table : Table}

theorem Fits.takes (h : Fits skipped table) {entry : String × Value} (hentry : entry ∈ table)
    (hskipped : ∀ key, (entry.1, key) ∉ skipped) (before : Settings) :
    ∃ after, takeSection before entry = .ok after := by
  obtain ⟨name, value⟩ := entry
  refine takeSection_of_reads ?_ ?_ ?_ before
  · rintro rfl
    exact Section.read_of_fits ((h.probe value hentry).mono hskipped) _
  · rintro rfl
    exact Section.read_of_fits ((h.heartbeat value hentry).mono hskipped) _
  · rintro rfl
    exact Section.read_of_fits ((h.log value hentry).mono hskipped) _

theorem Fits.complete_probe {key : String} (h : Fits [("probe", key)] table)
    (hprobe : ∀ value, ("probe", value) ∈ table → probeSection.Fits (fun _ => False) value) : Fits [] table where
  probe value hvalue := (hprobe value hvalue).mono fun _ hskip => hskip.elim
  heartbeat value hvalue := (h.heartbeat value hvalue).mono (by simp)
  log value hvalue := (h.log value hvalue).mono (by simp)

theorem Fits.complete_heartbeat {key : String} (h : Fits [("heartbeat", key)] table)
    (hheartbeat : ∀ value, ("heartbeat", value) ∈ table → heartbeatSection.Fits (fun _ => False) value) :
    Fits [] table where
  probe value hvalue := (h.probe value hvalue).mono (by simp)
  heartbeat value hvalue := (hheartbeat value hvalue).mono fun _ hskip => hskip.elim
  log value hvalue := (h.log value hvalue).mono (by simp)

/-- a table with one section that gives one setting gives no other -/
theorem fits_single (name key : String) (given : Value) : Fits [(name, key)] [(name, .table [(key, given)])] := by
  refine ⟨?_, ?_, ?_⟩
  all_goals
    intro value hvalue
    obtain ⟨rfl, rfl⟩ := Prod.mk.inj (List.mem_singleton.1 hvalue)
    exact (Section.fits_single _ key given).mono (by rintro _ rfl; exact List.mem_singleton_self _)

/-- **A table that fits is decoded.** -/
theorem decode_of_fits (h : Fits [] table) : ∃ settings, decode table = .ok settings :=
  foldlM_of_takes (fun _ hentry => h.takes hentry fun _ => List.not_mem_nil) Settings.default

/-- entries under this name are read as the section -/
def Section.Under {α : Type} (part : Section α) (name : String) : Prop :=
  ∀ value problem, (∀ before, part.read [name] before value = .error problem) →
    ∀ before, takeSection before (name, value) = .error problem

theorem probe_under : probeSection.Under "probe" := by
  intro value problem h before
  show (probeSection.read ["probe"] before.probe value).map _ = _
  rw [h]
  rfl

theorem heartbeat_under : heartbeatSection.Under "heartbeat" := by
  intro value problem h before
  show (heartbeatSection.read ["heartbeat"] before.heartbeat value).map _ = _
  rw [h]
  rfl

/-- what a table gives for a setting of the section under a name -/
def Section.lookUp {α : Type} (part : Section α) (name key : String) (table : Table) : Option Value :=
  (Keyed.find? name table).bind fun value => Keyed.find? key (part.given value)

/-- the section that gives a setting is the only one under its name, and gives the setting once -/
theorem Section.given_of_lookUp {α : Type} {part : Section α} (hd : part.HasDistinctKeys) (htable : OrderedTable table)
    {name key : String} {given : Value} (h : part.lookUp name key table = some given) :
    ∃ value, Keyed.find? name table = some value ∧ (key, given) ∈ part.given value ∧
      ∀ other item, (name, other) ∈ table → (key, item) ∈ part.given other → item = given := by
  obtain ⟨value, hvalue, hgiven⟩ := Option.bind_eq_some_iff.1 h
  refine ⟨value, hvalue, Keyed.mem_of_find? hgiven, fun other item hother hitem => ?_⟩
  have hsame := (Keyed.find?_of_mem htable.ascending.distinct hother).symm.trans hvalue
  cases hsame
  have hfound := Keyed.find?_of_mem (distinct_given hd (htable.values _ hother)) hitem
  exact Option.some.inj (hfound.symm.trans hgiven)

/-- **One setting that refuses its value** is what decoding reports, if all others take theirs. -/
theorem decode_of_refused {α : Type} {part : Section α} {name : String} (hunder : part.Under name)
    (hd : part.HasDistinctKeys) {setting : Setting α} (hmem : setting ∈ part.settings) (htable : OrderedTable table)
    (h : Fits [(name, setting.key)] table)
    (hfits : ∀ value, (name, value) ∈ table → part.Fits (· = setting.key) value) {given : Value}
    (hgiven : part.lookUp name setting.key table = some given) {flaw : Flaw} (hrefuses : setting.Refuses given flaw) :
    ∃ value, Keyed.find? name table = some value ∧
      decode table = .error { flaw, path := Section.placeOf [name] setting.key value } := by
  obtain ⟨value, hvalue, hitem, -⟩ := Section.given_of_lookUp hd htable hgiven
  have hentry := Keyed.mem_of_find? hvalue
  have hread := Section.read_of_refused hd hmem (htable.values _ hentry) (hfits value hentry) hitem hrefuses [name]
  refine ⟨value, hvalue, foldlM_of_refused Prod.fst htable.ascending.distinct hentry (hunder value _ hread) ?_ _⟩
  intro entry hentry hne
  exact h.takes hentry fun key hkey => hne (Prod.mk.inj (List.mem_singleton.1 hkey)).1

/-! ## Variables -/

/-- the override takes the text, whatever was there before -/
def Override.Takes (override : Override) (text : String) : Prop :=
  ∀ before, ∃ after, override.apply text before = .ok after

/-- every variable that is set is taken -/
def VariablesFit (environment : Environment) : Prop :=
  ∀ override ∈ overrides, ∀ text, environment override.name = some text → override.Takes text

theorem applyEach_of_takes {environment : Environment} {taken : List Override}
    (h : ∀ override ∈ taken, ∀ text, environment override.name = some text → override.Takes text)
    (before : Settings) : ∃ after, applyEach environment taken before = (after, .ok ()) := by
  induction taken generalizing before with
  | nil => exact ⟨before, rfl⟩
  | cons override rest ih =>
    have hrest := ih fun later hlater => h later (List.mem_cons_of_mem override hlater)
    rw [applyEach]
    cases henv : environment override.name with
    | none => exact hrest before
    | some text =>
      obtain ⟨middle, happly⟩ := h override List.mem_cons_self text henv before
      dsimp only
      rw [happly]
      exact hrest middle

/-- **Variables that fit leave settings.** -/
theorem overrides_of_fit {environment : Environment} (h : VariablesFit environment) (before : Settings) :
    ∃ after, applyOverrides environment before = (after, .ok ()) := applyEach_of_takes h before

end BlockProbe.Settings
