/-
Settings decoded by look-up.

A section gives its settings by key or by place; `Section.given` lists what it gives as keyed values either way. Once a
table is decoded, every setting is its default or what its own value reads as (`read_setting`), and every section is
its default or what is under its own key (`decode_sections`): the order in which the entries were visited leaves no
trace in the settings.
-/
import BlockProbe.Proofs.Results
import BlockProbe.Proofs.Toml.Ordered
import BlockProbe.Settings.Decode

namespace BlockProbe.Settings

open BlockProbe.Toml

/-- what is made of a setting: what its value reads as, or what was there before where it has no value -/
def Reads {β : Type} (read : Value → Except Flaw β) : Option Value → β → β → Prop :=
  Through fun _ value after => read value = .ok after

/-- a setting that leaves what `view` shows as it was -/
def Setting.Keeps {α β : Type} (setting : Setting α) (view : α → β) : Prop :=
  ∀ value before after, setting.set value before = .ok after → view after = view before

theorem Setting.of_keeps {α β γ : Type} {key : String} {read : Value → Except Flaw γ} {store : α → γ → α}
    {view : α → β} (h : ∀ before stored, view (store before stored) = view before) :
    (Setting.of key read store).Keeps view := by
  intro value before after hset
  obtain ⟨stored, _, rfl⟩ := map_eq_ok.1 hset
  exact h before stored

namespace Section

variable {α β : Type}

/-- the settings that a section's value gives, by key -/
def given (part : Section α) : Value → List (String × Value)
  | .table entries => entries
  | .array items => (part.settings.map Setting.key).zip items
  | _ => []

/-- take one given setting -/
def takeGiven (part : Section α) (before : α) (entry : String × Value) : Except Flaw α :=
  match part.settings.find? fun setting => setting.key == entry.1 with
  | some setting => setting.set entry.2 before
  | none => .ok before

/-- settings that each have a key of their own -/
def HasDistinctKeys (part : Section α) : Prop := (part.settings.map Setting.key).Nodup

/-- `key` is the setting that `read` takes and `view` shows, and no other setting changes what `view` shows -/
structure Shows (part : Section α) (key : String) (read : Value → Except Flaw β) (view : α → β) : Prop where
  own : ∀ value before after, part.takeGiven before (key, value) = .ok after → read value = .ok (view after)
  others : ∀ before entry after, entry.1 ≠ key → part.takeGiven before entry = .ok after → view after = view before

theorem find?_setting {part : Section α} (hd : part.HasDistinctKeys) {setting : Setting α}
    (h : setting ∈ part.settings) : (part.settings.find? fun other => other.key == setting.key) = some setting := by
  refine List.find?_eq_some_iff_append.2 ⟨by simp, ?_⟩
  obtain ⟨before, after, hsplit⟩ := List.append_of_mem h
  refine ⟨before, after, hsplit, fun other hother => ?_⟩
  have hnodup : ((before ++ setting :: after).map Setting.key).Nodup := hsplit ▸ hd
  rw [List.map_append, List.nodup_append] at hnodup
  have hne := hnodup.2.2 other.key (List.mem_map_of_mem hother) setting.key (by simp)
  simpa using hne

theorem takeGiven_of_takeEntry {part : Section α} {path : List String} (before : α) (entry : String × Value)
    (after : α) (h : part.takeEntry path before entry = .ok after) : part.takeGiven before entry = .ok after := by
  unfold takeEntry at h
  unfold takeGiven
  cases hfind : part.settings.find? fun setting => setting.key == entry.1 with
  | none => rw [hfind] at h; cases h; rfl
  | some setting => rw [hfind] at h; exact mapError_eq_ok.1 h

/-- items are taken as the settings at their places -/
theorem foldlM_takeItem {part : Section α} (hd : part.HasDistinctKeys) {path : List String} {items : List Value}
    {settings : List (Setting α)} (hmem : ∀ setting ∈ settings, setting ∈ part.settings) {before after : α}
    (h : (items.zip settings).foldlM (takeItem path) before = .ok after) :
    ((settings.map Setting.key).zip items).foldlM part.takeGiven before = .ok after := by
  induction items generalizing settings before with
  | nil => cases h; rw [List.zip_nil_right]; rfl
  | cons item items ih =>
    cases settings with
    | nil => cases h; rfl
    | cons setting settings =>
      rw [List.zip_cons_cons, List.foldlM_cons] at h
      obtain ⟨middle, hfirst, h⟩ := bind_eq_ok.1 h
      rw [List.map_cons, List.zip_cons_cons, List.foldlM_cons]
      refine bind_eq_ok.2 ⟨middle, ?_, ih (fun s hs => hmem s (List.mem_cons_of_mem _ hs)) h⟩
      unfold takeGiven
      rw [find?_setting hd (hmem setting List.mem_cons_self)]
      exact mapError_eq_ok.1 hfirst

theorem read_given {part : Section α} (hd : part.HasDistinctKeys) {path : List String} {before after : α}
    {value : Value} (h : part.read path before value = .ok after) :
    (part.given value).foldlM part.takeGiven before = .ok after := by
  cases value with
  | table entries => exact foldlM_ok_imp takeGiven_of_takeEntry h
  | array items =>
    obtain ⟨middle, hitems, h⟩ := bind_eq_ok.1 h
    split_ifs at h
    cases h
    exact foldlM_takeItem hd (fun _ hs => hs) hitems
  | _ => cases h

theorem distinct_given {part : Section α} (hd : part.HasDistinctKeys) {value : Value} (hv : value.Ordered) :
    Keyed.Distinct (part.given value) := by
  cases value with
  | table entries => exact hv.toTable.ascending.distinct
  | array items => exact Keyed.distinct_zip hd items
  | _ => exact List.nodup_nil

/-- **One setting of a section.** A section that can be read leaves each setting as its own value reads, or as it was
where the section says nothing about it. -/
theorem read_setting {part : Section α} (hd : part.HasDistinctKeys) {key : String} {read : Value → Except Flaw β}
    {view : α → β} (hshows : part.Shows key read view) {path : List String} {before after : α} {value : Value}
    (hv : value.Ordered) (h : part.read path before value = .ok after) :
    Reads read (Keyed.find? key (part.given value)) (view before) (view after) := by
  exact foldlM_find? part.takeGiven view key _ (fun before value after => hshows.own value before after)
    (fun before entry after => hshows.others before entry after) (distinct_given hd hv) (read_given hd h)

/-- a setting that is read and stored shows what was read -/
theorem shows_of {part : Section α} (hd : part.HasDistinctKeys) {key : String} {read : Value → Except Flaw β}
    {store : α → β → α} {view : α → β} (hmem : Setting.of key read store ∈ part.settings)
    (hown : ∀ before value, view (store before value) = value)
    (hothers : ∀ setting ∈ part.settings, setting.key ≠ key → setting.Keeps view) : part.Shows key read view where
  own := by
    intro value before after h
    unfold takeGiven at h
    rw [show key = (Setting.of key read store).key from rfl, find?_setting hd hmem] at h
    obtain ⟨stored, hread, rfl⟩ := map_eq_ok.1 h
    rw [hown]
    exact hread
  others := by
    intro before entry after hne h
    unfold takeGiven at h
    cases hfind : part.settings.find? fun setting => setting.key == entry.1 with
    | none => rw [hfind] at h; cases h; rfl
    | some setting =>
      rw [hfind] at h
      have hkey : setting.key = entry.1 := by simpa using List.find?_some hfind
      exact hothers setting (List.mem_of_find?_eq_some hfind) (hkey ▸ hne) entry.2 before after h

end Section

/-! ## The three sections -/

theorem probeSection_keys : probeSection.HasDistinctKeys := by
  simp [Section.HasDistinctKeys, probeSection, Setting.of]

theorem heartbeatSection_keys : heartbeatSection.HasDistinctKeys := by
  simp [Section.HasDistinctKeys, heartbeatSection, Setting.of]

theorem logSection_keys : logSection.HasDistinctKeys := by
  simp [Section.HasDistinctKeys, logSection, Setting.of]

theorem probe_shows_fileMode : probeSection.Shows "file_mode" asUnsigned32 ProbeSettings.fileMode := by
  refine Section.shows_of probeSection_keys (List.mem_cons_self) (fun _ _ => rfl) ?_
  simp only [probeSection, List.forall_mem_cons]
  exact ⟨fun h => absurd rfl h, fun _ => Setting.of_keeps fun _ _ => rfl, fun _ => Setting.of_keeps fun _ _ => rfl,
    by simp⟩

theorem probe_shows_verify : probeSection.Shows "verify" asBoolean ProbeSettings.verify := by
  refine Section.shows_of probeSection_keys (.tail _ List.mem_cons_self) (fun _ _ => rfl) ?_
  simp only [probeSection, List.forall_mem_cons]
  exact ⟨fun _ => Setting.of_keeps fun _ _ => rfl, fun h => absurd rfl h, fun _ => Setting.of_keeps fun _ _ => rfl,
    by simp⟩

theorem probe_shows_sync : probeSection.Shows "sync" asBoolean ProbeSettings.sync := by
  refine Section.shows_of probeSection_keys (.tail _ (.tail _ List.mem_cons_self)) (fun _ _ => rfl) ?_
  simp only [probeSection, List.forall_mem_cons]
  exact ⟨fun _ => Setting.of_keeps fun _ _ => rfl, fun _ => Setting.of_keeps fun _ _ => rfl, fun h => absurd rfl h,
    by simp⟩

theorem heartbeat_shows_interval :
    heartbeatSection.Shows "interval_secs" asUnsigned64 HeartbeatSettings.intervalSecs := by
  refine Section.shows_of heartbeatSection_keys (List.mem_cons_self) (fun _ _ => rfl) ?_
  simp only [heartbeatSection, List.forall_mem_cons]
  exact ⟨fun h => absurd rfl h, fun _ => Setting.of_keeps fun _ _ => rfl, by simp⟩

theorem heartbeat_shows_message : heartbeatSection.Shows "message" asText HeartbeatSettings.message := by
  refine Section.shows_of heartbeatSection_keys (.tail _ List.mem_cons_self) (fun _ _ => rfl) ?_
  simp only [heartbeatSection, List.forall_mem_cons]
  exact ⟨fun _ => Setting.of_keeps fun _ _ => rfl, fun h => absurd rfl h, by simp⟩

theorem log_shows_level : logSection.Shows "level" asLevel LogSettings.level := by
  refine Section.shows_of logSection_keys (List.mem_cons_self) (fun _ _ => rfl) ?_
  simp only [logSection, List.forall_mem_cons]
  exact ⟨fun h => absurd rfl h, by simp⟩

/-! ## The whole table -/

/-- what is made of a section: what its value reads as, or its defaults -/
def ReadsSection {α : Type} (part : Section α) (name : String) : Option Value → α → α → Prop :=
  Through fun before value after => part.read [name] before value = .ok after

/-- an entry changes the section it is named for, and no other -/
theorem takeSection_eq_ok {before after : Settings} {entry : String × Value}
    (h : takeSection before entry = .ok after) :
    (if entry.1 = "probe" then probeSection.read ["probe"] before.probe entry.2 = .ok after.probe
      else after.probe = before.probe) ∧
    (if entry.1 = "heartbeat" then heartbeatSection.read ["heartbeat"] before.heartbeat entry.2 = .ok after.heartbeat
      else after.heartbeat = before.heartbeat) ∧
    (if entry.1 = "log" then logSection.read ["log"] before.log entry.2 = .ok after.log
      else after.log = before.log) := by
  unfold takeSection at h
  split_ifs at h with hprobe hheartbeat hlog
  · obtain ⟨probe, hread, rfl⟩ := map_eq_ok.1 h
    rw [hprobe] at hread ⊢
    exact ⟨hread, rfl, rfl⟩
  · obtain ⟨heartbeat, hread, rfl⟩ := map_eq_ok.1 h
    rw [hheartbeat] at hread ⊢
    exact ⟨rfl, hread, rfl⟩
  · obtain ⟨log, hread, rfl⟩ := map_eq_ok.1 h
    rw [hlog] at hread ⊢
    exact ⟨rfl, rfl, hread⟩
  · cases h
    simp [hprobe, hheartbeat, hlog]

/-- **Sections do not meet.** Decoding an ordered table reads every section from what is under its own name. -/
theorem decode_sections {table : Table} (htable : OrderedTable table) {settings : Settings}
    (h : decode table = .ok settings) :
    ReadsSection probeSection "probe" (Keyed.find? "probe" table) {} settings.probe ∧
    ReadsSection heartbeatSection "heartbeat" (Keyed.find? "heartbeat" table) {} settings.heartbeat ∧
    ReadsSection logSection "log" (Keyed.find? "log" table) {} settings.log := by
  have hd := htable.ascending.distinct
  refine ⟨?_, ?_, ?_⟩
  · exact foldlM_find? takeSection Settings.probe "probe" _
      (fun _ _ _ htake => by simpa using (takeSection_eq_ok htake).1)
      (fun _ _ _ hne htake => by simpa [hne] using (takeSection_eq_ok htake).1) hd h
  · exact foldlM_find? takeSection Settings.heartbeat "heartbeat" _
      (fun _ _ _ htake => by simpa using (takeSection_eq_ok htake).2.1)
      (fun _ _ _ hne htake => by simpa [hne] using (takeSection_eq_ok htake).2.1) hd h
  · exact foldlM_find? takeSection Settings.log "log" _
      (fun _ _ _ htake => by simpa using (takeSection_eq_ok htake).2.2)
      (fun _ _ _ hne htake => by simpa [hne] using (takeSection_eq_ok htake).2.2) hd h

/-- a setting of a section that was read -/
theorem ReadsSection.setting {α β : Type} {part : Section α} (hd : part.HasDistinctKeys) {name key : String}
    {read : Value → Except Flaw β} {view : α → β} (hshows : part.Shows key read view) {source : Option Value}
    (hsource : ∀ value, source = some value → value.Ordered) {before after : α}
    (h : ReadsSection part name source before after) :
    Reads read (source.bind fun value => Keyed.find? key (part.given value)) (view before) (view after) := by
  cases source with
  | none => exact congrArg view h
  | some value => exact Section.read_setting hd hshows (hsource value rfl) h

end BlockProbe.Settings
