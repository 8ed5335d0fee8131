/-
Decoding obeys the rules.

A section follows a layout if its settings, one by one, take what the layout's fields accept and object to everything
else. Then a section that is read has no offence and one that is refused is refused for its first, and the same goes for
the whole table: the order of visiting is the order of keys.

- `read_no_offence`, `read_first_offence`: one section.
- `decode_eq_ok`, `decode_eq_error`: a whole table, settled by the rules alone.
- `decode_exactly`: which tables decode, to what, and with which problem.
-/
import BlockProbe.Proofs.Settings.Fits
import BlockProbe.Proofs.Settings.Rules

namespace BlockProbe.Settings

open BlockProbe.Toml

/-! ## Readers -/

/-- the reader takes the values of the kind and objects to all others -/
structure FieldKind.ReadBy {β : Type} (kind : FieldKind) (read : Value → Except Flaw β) : Prop where
  takes : ∀ value, kind.Accepts value → ∃ result, read value = .ok result
  refuses : ∀ value, ¬ kind.Accepts value → read value = .error (kind.objection value)

theorem unsigned32_readBy : FieldKind.unsigned32.ReadBy asUnsigned32 where
  takes value h := by
    cases value with
    | integer n =>
      have hrange : 0 ≤ n.toInt ∧ n.toInt < 0x100000000 := ⟨h.1, by have := h.2; omega⟩
      exact ⟨_, if_pos hrange⟩
    | _ => exact h.elim
  refuses value h := by
    cases value with
    | integer n =>
      have hrange : ¬ (0 ≤ n.toInt ∧ n.toInt < 0x100000000) := fun hr => h ⟨hr.1, by have := hr.2; omega⟩
      exact if_neg hrange
    | _ => rfl

theorem unsigned64_readBy : FieldKind.unsigned64.ReadBy asUnsigned64 where
  takes value h := by
    cases value with
    | integer n => exact ⟨_, if_pos h.1⟩
    | _ => exact h.elim
  refuses value h := by
    cases value with
    | integer n =>
      have hrange : ¬ 0 ≤ n.toInt := fun hr => h ⟨hr, by have := n.toInt_lt; omega⟩
      exact if_neg hrange
    | _ => rfl

theorem boolean_readBy : FieldKind.boolean.ReadBy asBoolean where
  takes value h := by
    cases value with
    | boolean value => exact ⟨value, rfl⟩
    | _ => exact h.elim
  refuses value h := by
    cases value with
    | boolean value => exact (h trivial).elim
    | _ => rfl

theorem text_readBy : FieldKind.text.ReadBy asText where
  takes value h := by
    cases value with
    | text text => exact ⟨text, rfl⟩
    | moment moment => exact ⟨moment.text, rfl⟩
    | _ => exact h.elim
  refuses value h := by
    cases value with
    | text text => exact (h trivial).elim
    | moment moment => exact (h trivial).elim
    | _ => rfl

theorem levelNamed_eq_ok {name : String} {level : Level} : levelNamed name = .ok level ↔ name = level.name := by
  unfold levelNamed Level.ofName? Level.all
  constructor
  · intro h
    split at h
    · next found hfound =>
      cases h
      exact (by simpa using List.find?_some hfound : level.name = name).symm
    · cases h
  · rintro rfl
    cases level <;> rfl

theorem mem_levelNames {name : String} : name ∈ levelNames ↔ ∃ level : Level, name = level.name := by
  constructor
  · simp only [levelNames, List.mem_cons, List.not_mem_nil, or_false]
    rintro (rfl | rfl | rfl | rfl | rfl)
    · exact ⟨.error, rfl⟩
    · exact ⟨.warn, rfl⟩
    · exact ⟨.info, rfl⟩
    · exact ⟨.debug, rfl⟩
    · exact ⟨.trace, rfl⟩
  · rintro ⟨level, rfl⟩
    cases level <;> decide

theorem levelNamed_of_mem {name : String} (h : name ∈ levelNames) : ∃ level, levelNamed name = .ok level := by
  obtain ⟨level, hlevel⟩ := mem_levelNames.1 h
  exact ⟨level, levelNamed_eq_ok.2 hlevel⟩

theorem levelNamed_of_not_mem {name : String} (h : name ∉ levelNames) :
    levelNamed name = .error (.unknownLevel name) := by
  cases hnamed : levelNamed name with
  | ok level => exact (h (mem_levelNames.2 ⟨level, levelNamed_eq_ok.1 hnamed⟩)).elim
  | error flaw =>
    unfold levelNamed at hnamed
    split at hnamed
    · cases hnamed
    · exact hnamed.symm

theorem isEmptyPayload_iff {payload : Value} : isEmptyPayload payload = true ↔ IsEmpty payload := by
  cases payload <;> simp [isEmptyPayload, IsEmpty]

theorem asLevel_single (name : String) (payload : Value) :
    asLevel (.table [(name, payload)]) = levelNamed name >>= fun level =>
      if isEmptyPayload payload then .ok level else .error (.levelPayload payload) := rfl

theorem level_readBy : FieldKind.level.ReadBy asLevel where
  takes value h := by
    match value, h with
    | .text name, h => exact levelNamed_of_mem h
    | .table [(name, payload)], ⟨hname, hempty⟩ =>
      obtain ⟨level, hlevel⟩ := levelNamed_of_mem hname
      refine ⟨level, ?_⟩
      rw [asLevel_single, hlevel]
      exact if_pos (isEmptyPayload_iff.2 hempty)
  refuses value h := by
    match value, h with
    | .text name, h => exact levelNamed_of_not_mem h
    | .table [], _ => rfl
    | .table [(name, payload)], h =>
      rw [asLevel_single]
      show _ = Except.error (if name ∈ levelNames then Flaw.levelPayload payload else .unknownLevel name)
      by_cases hname : name ∈ levelNames
      · obtain ⟨level, hlevel⟩ := levelNamed_of_mem hname
        rw [hlevel, if_pos hname]
        exact if_neg fun hempty => h ⟨hname, isEmptyPayload_iff.1 hempty⟩
      · rw [levelNamed_of_not_mem hname, if_neg hname]
        rfl
    | .table (_ :: _ :: _), _ => rfl
    | .integer _, _ | .float _, _ | .boolean _, _ | .moment _, _ | .array _, _ => rfl

/-! ## Sections -/

/-- the setting is the field: it takes what the field accepts and objects to everything else -/
structure Setting.Follows {α : Type} (setting : Setting α) (field : Field) : Prop where
  key : setting.key = field.key
  takes : ∀ value, field.kind.Accepts value → setting.Takes value
  refuses : ∀ value, ¬ field.kind.Accepts value → setting.Refuses value (field.kind.objection value)

theorem Setting.of_follows {α β : Type} {key : String} {kind : FieldKind} {read : Value → Except Flaw β}
    (h : kind.ReadBy read) (store : α → β → α) : (Setting.of key read store).Follows ⟨key, kind⟩ where
  key := rfl
  takes value haccepts := by
    obtain ⟨result, hread⟩ := h.takes value haccepts
    exact Setting.of_takes store hread
  refuses value hnot := Setting.of_refuses store (h.refuses value hnot)

namespace Setting.Follows

variable {α : Type} {setting : Setting α} {field : Field} {value : Value} {before : α}

theorem accepts (h : setting.Follows field) {after : α} (hset : setting.set value before = .ok after) :
    field.kind.Accepts value := by
  by_contra hnot
  rw [h.refuses value hnot before] at hset
  cases hset

theorem objects (h : setting.Follows field) {flaw : Flaw} (hset : setting.set value before = .error flaw) :
    ¬ field.kind.Accepts value ∧ flaw = field.kind.objection value := by
  have hnot : ¬ field.kind.Accepts value := by
    intro haccepts
    obtain ⟨after, hafter⟩ := h.takes value haccepts before
    rw [hafter] at hset
    cases hset
  rw [h.refuses value hnot before] at hset
  cases hset
  exact ⟨hnot, rfl⟩

end Setting.Follows

/-- the section's settings are the layout's fields -/
structure Section.Follows {α : Type} (part : Section α) (layout : Layout) : Prop where
  record : part.name = layout.record
  settings : List.Forall₂ Setting.Follows part.settings layout.fields

theorem probe_follows : probeSection.Follows probeLayout :=
  ⟨rfl, .cons (Setting.of_follows unsigned32_readBy _) (.cons (Setting.of_follows boolean_readBy _)
    (.cons (Setting.of_follows boolean_readBy _) .nil))⟩

theorem heartbeat_follows : heartbeatSection.Follows heartbeatLayout :=
  ⟨rfl, .cons (Setting.of_follows unsigned64_readBy _) (.cons (Setting.of_follows text_readBy _) .nil)⟩

theorem log_follows : logSection.Follows logLayout :=
  ⟨rfl, .cons (Setting.of_follows level_readBy _) .nil⟩

/-- the offence of a section's value that is looked at before all others -/
def Layout.FirstIn (layout : Layout) (value : Value) (problem : Problem) : Prop :=
  ∃ spot, layout.Offends value spot problem ∧
    ∀ other another, layout.Offends value other another → other = spot ∨ spot.Before other

namespace Section

variable {α : Type} {part : Section α} {layout : Layout}

theorem Follows.keys (h : part.Follows layout) : part.settings.map Setting.key = layout.fields.map Field.key := by
  have hsettings := h.settings
  generalize part.settings = settings at hsettings
  generalize layout.fields = fields at hsettings
  induction hsettings with
  | nil => rfl
  | cons hfirst _ ih => rw [List.map_cons, List.map_cons, hfirst.key, ih]

/-- what a value gives is the same for the section and its layout -/
theorem Follows.given (h : part.Follows layout) (value : Value) : part.given value = layout.given value := by
  cases value with
  | array items => show (part.settings.map Setting.key).zip items = _; rw [h.keys]; rfl
  | _ => rfl

theorem Follows.field_at (h : part.Follows layout) {index : Nat} {setting : Setting α}
    (hsetting : part.settings[index]? = some setting) :
    ∃ field, layout.fields[index]? = some field ∧ setting.Follows field := by
  obtain ⟨hlt, -⟩ := List.getElem?_eq_some_iff.1 hsetting
  have hfield := List.getElem?_eq_getElem (h.settings.length_eq ▸ hlt)
  exact ⟨_, hfield, List.forall₂_zip h.settings
    (List.mem_of_getElem? (List.getElem?_zip_eq_some.2 ⟨hsetting, hfield⟩))⟩

theorem Follows.setting_at (h : part.Follows layout) {index : Nat} {field : Field}
    (hfield : layout.fields[index]? = some field) :
    ∃ setting, part.settings[index]? = some setting ∧ setting.Follows field := by
  obtain ⟨hlt, -⟩ := List.getElem?_eq_some_iff.1 hfield
  have hsetting := List.getElem?_eq_getElem (h.settings.length_eq.symm ▸ hlt)
  exact ⟨_, hsetting, List.forall₂_zip h.settings
    (List.mem_of_getElem? (List.getElem?_zip_eq_some.2 ⟨hsetting, hfield⟩))⟩

/-- a field that is taken holds an acceptable value -/
theorem Follows.accepts_of_entry (h : part.Follows layout) (hd : part.HasDistinctKeys) {field : Field}
    (hfield : field ∈ layout.fields) {value : Value} {path : List String} {before after : α}
    (htake : part.takeEntry path before (field.key, value) = .ok after) : field.kind.Accepts value := by
  obtain ⟨index, hindex⟩ := List.getElem?_of_mem hfield
  obtain ⟨setting, hsetting, hfollows⟩ := h.setting_at hindex
  have hgiven := takeGiven_of_takeEntry _ _ _ htake
  unfold takeGiven at hgiven
  rw [← hfollows.key, find?_setting hd (List.mem_of_getElem? hsetting)] at hgiven
  exact hfollows.accepts hgiven

/-- an entry that is refused is a field with a value that is not acceptable -/
theorem Follows.of_entry_error (h : part.Follows layout) {path : List String} {before : α} {entry : String × Value}
    {problem : Problem} (htake : part.takeEntry path before entry = .error problem) :
    ∃ field ∈ layout.fields, field.key = entry.1 ∧ ¬ field.kind.Accepts entry.2 ∧
      problem = { flaw := field.kind.objection entry.2, path := path ++ [entry.1] } := by
  unfold takeEntry at htake
  cases hfind : part.settings.find? fun setting => setting.key == entry.1 with
  | none => rw [hfind] at htake; cases htake
  | some setting =>
    rw [hfind] at htake
    obtain ⟨flaw, hset, rfl⟩ := mapError_eq_error.1 htake
    obtain ⟨index, hindex⟩ := List.getElem?_of_mem (List.mem_of_find?_eq_some hfind)
    obtain ⟨field, hfield, hfollows⟩ := h.field_at hindex
    obtain ⟨hnot, rfl⟩ := hfollows.objects hset
    have hkey : setting.key = entry.1 := by simpa using List.find?_some hfind
    exact ⟨field, List.mem_of_getElem? hfield, hfollows.key.symm.trans hkey, hnot, rfl⟩

/-- an item that is taken is an acceptable value of the field at its place -/
theorem Follows.accepts_of_items (h : part.Follows layout) {path : List String} {before after : α}
    {taken : List (Value × Setting α)} (htake : taken.foldlM (takeItem path) before = .ok after)
    {index : Nat} {setting : Setting α} {given : Value} (htaken : (given, setting) ∈ taken)
    (hsetting : part.settings[index]? = some setting) {field : Field} (hfield : layout.fields[index]? = some field) :
    field.kind.Accepts given := by
  obtain ⟨state, next, hitem⟩ := step_of_foldlM_ok htake htaken
  obtain ⟨_, hother, hfollows⟩ := h.field_at hsetting
  cases hother.symm.trans hfield
  exact hfollows.accepts (mapError_eq_ok.1 hitem)

/-- what stands at a place that both lists have -/
theorem Follows.zip_at (h : part.Follows layout) {items : List Value} {index : Nat} {given : Value}
    (hgiven : items[index]? = some given) {field : Field} (hfield : layout.fields[index]? = some field) :
    ∃ setting, part.settings[index]? = some setting ∧ (items.zip part.settings)[index]? = some (given, setting) := by
  obtain ⟨setting, hsetting, -⟩ := h.setting_at hfield
  exact ⟨setting, hsetting, List.getElem?_zip_eq_some.2 ⟨hgiven, hsetting⟩⟩

variable {before : α} {value : Value}

/-- **A section that is read breaks no rule.** -/
theorem Follows.read_no_offence (h : part.Follows layout) (hd : part.HasDistinctKeys) {path : List String} {after : α}
    (hread : part.read path before value = .ok after) (spot : Spot) (problem : Problem) :
    ¬ layout.Offends value spot problem := by
  intro hoffends
  cases hoffends with
  | whole htable harray =>
    cases value with
    | table entries => exact htable trivial
    | array items => exact harray items rfl
    | _ => cases hread
  | field hfield hgiven hnot =>
    obtain ⟨state, next, htake⟩ := step_of_foldlM_ok hread (Keyed.mem_of_find? hgiven)
    exact hnot (h.accepts_of_entry hd hfield htake)
  | item hfield hgiven hnot =>
    obtain ⟨middle, hitems, -⟩ := bind_eq_ok.1 hread
    obtain ⟨setting, hsetting, hzip⟩ := h.zip_at hgiven hfield
    exact hnot (h.accepts_of_items hitems (List.mem_of_getElem? hzip) hsetting hfield)
  | length hlong =>
    obtain ⟨middle, -, hlength⟩ := bind_eq_ok.1 hread
    rw [if_pos (h.settings.length_eq ▸ hlong)] at hlength
    cases hlength

theorem Follows.entries_first_offence (h : part.Follows layout) (hd : part.HasDistinctKeys) {entries : Table}
    (hascending : Keyed.Ascending entries) {problem : Problem}
    (hread : entries.foldlM (part.takeEntry [layout.name]) before = .error problem) :
    layout.FirstIn (.table entries) problem := by
  obtain ⟨first, ⟨key, given⟩, rest, middle, rfl, hfirst, hentry⟩ := foldlM_eq_error hread
  obtain ⟨field, hfield, rfl, hnot, rfl⟩ := h.of_entry_error hentry
  have hgiven := Keyed.find?_of_mem hascending.distinct (List.mem_append_right first List.mem_cons_self)
  refine ⟨_, .field hfield hgiven hnot, fun spot another hoffends => ?_⟩
  cases hoffends with
  | whole htable => exact (htable trivial).elim
  | field hfield' hgiven' hnot' =>
    rcases List.mem_append.1 (Keyed.mem_of_find? hgiven') with hearlier | hlater
    · -- what stands before was taken
      obtain ⟨state, next, htake⟩ := step_of_foldlM_ok hfirst hearlier
      exact (hnot' (h.accepts_of_entry hd hfield' htake)).elim
    · rcases List.mem_cons.1 hlater with heq | hlater
      · exact .inl (congrArg Spot.field (congrArg Prod.fst heq))
      · exact .inr ((List.pairwise_cons.1 (List.pairwise_append.1 hascending).2.1).1 _ hlater)

theorem Follows.items_first_offence (h : part.Follows layout) {items : List Value} {problem : Problem}
    (hread : (items.zip part.settings).foldlM (takeItem [layout.name]) before = .error problem) :
    layout.FirstIn (.array items) problem := by
  obtain ⟨first, ⟨given, setting⟩, rest, middle, hsplit, hfirst, hitem⟩ := foldlM_eq_error hread
  obtain ⟨flaw, hset, rfl⟩ := mapError_eq_error.1 hitem
  have hzip : (items.zip part.settings)[first.length]? = some (given, setting) := by rw [hsplit]; simp
  obtain ⟨hgiven, hsetting⟩ := List.getElem?_zip_eq_some.1 hzip
  obtain ⟨field, hfield, hfollows⟩ := h.field_at hsetting
  obtain ⟨hnot, rfl⟩ := hfollows.objects hset
  refine ⟨_, .item hfield hgiven hnot, fun spot another hoffends => ?_⟩
  cases hoffends with
  | whole _ harray => exact (harray items rfl).elim
  | @item _ index _ _ hfield' hgiven' hnot' =>
    rcases lt_trichotomy index first.length with hearlier | heq | hlater
    · obtain ⟨setting', hsetting', hzip'⟩ := h.zip_at hgiven' hfield'
      rw [hsplit, List.getElem?_append_left hearlier] at hzip'
      exact (hnot' (h.accepts_of_items hfirst (List.mem_of_getElem? hzip') hsetting' hfield')).elim
    · exact .inl (congrArg Spot.item heq)
    · exact .inr hlater
  | length => exact .inr trivial

/-- **A section that is refused is refused for its first offence.** -/
theorem Follows.read_first_offence (h : part.Follows layout) (hd : part.HasDistinctKeys) (hv : value.Ordered)
    {problem : Problem} (hread : part.read [layout.name] before value = .error problem) :
    layout.FirstIn value problem := by
  cases value with
  | table entries => exact h.entries_first_offence hd hv.toTable.ascending hread
  | array items =>
    rcases bind_eq_error.1 hread with hitems | ⟨middle, hitems, hlength⟩
    · exact h.items_first_offence hitems
    · -- all items are taken, and there are too many
      split_ifs at hlength with hlong
      cases hlength
      refine ⟨.length, .length (h.settings.length_eq ▸ hlong), fun spot another hoffends => ?_⟩
      cases hoffends with
      | whole _ harray => exact (harray items rfl).elim
      | item hfield hgiven hnot =>
        obtain ⟨setting, hsetting, hzip⟩ := h.zip_at hgiven hfield
        exact (hnot (h.accepts_of_items hitems (List.mem_of_getElem? hzip) hsetting hfield)).elim
      | length => exact .inl rfl
  | _ =>
    cases hread
    rw [h.record]
    refine ⟨.whole, .whole not_false (fun _ => nofun), fun spot another hoffends => ?_⟩
    cases hoffends
    exact .inl rfl

end Section

/-! ## The whole table -/

theorem takeSection_no_offence {before after : Settings} {entry : String × Value}
    (htake : takeSection before entry = .ok after) :
    ∀ layout ∈ layouts, layout.name = entry.1 → ∀ spot problem, ¬ layout.Offends entry.2 spot problem := by
  obtain ⟨hprobe, hheartbeat, hlog⟩ := takeSection_eq_ok htake
  refine forall_layouts.2 ⟨fun hname => ?_, fun hname => ?_, fun hname => ?_⟩
  · rw [if_pos (show entry.1 = "heartbeat" from hname.symm)] at hheartbeat
    exact heartbeat_follows.read_no_offence heartbeatSection_keys hheartbeat
  · rw [if_pos (show entry.1 = "log" from hname.symm)] at hlog
    exact log_follows.read_no_offence logSection_keys hlog
  · rw [if_pos (show entry.1 = "probe" from hname.symm)] at hprobe
    exact probe_follows.read_no_offence probeSection_keys hprobe

theorem takeSection_first_offence {before : Settings} {entry : String × Value} (hv : entry.2.Ordered)
    {problem : Problem} (htake : takeSection before entry = .error problem) :
    ∃ layout ∈ layouts, layout.name = entry.1 ∧ layout.FirstIn entry.2 problem := by
  unfold takeSection at htake
  split_ifs at htake with hprobe hheartbeat hlog
  · rw [hprobe] at htake ⊢
    exact ⟨probeLayout, by simp [layouts], rfl,
      probe_follows.read_first_offence probeSection_keys hv (map_eq_error.1 htake)⟩
  · rw [hheartbeat] at htake ⊢
    exact ⟨heartbeatLayout, by simp [layouts], rfl,
      heartbeat_follows.read_first_offence heartbeatSection_keys hv (map_eq_error.1 htake)⟩
  · rw [hlog] at htake ⊢
    exact ⟨logLayout, by simp [layouts], rfl, log_follows.read_first_offence logSection_keys hv (map_eq_error.1 htake)⟩

variable {table : Table} {settings : Settings} {problem : Problem}

theorem decode_no_offence (h : decode table = .ok settings) (place : String × Spot) (problem : Problem) :
    ¬ Offends table place problem := by
  rintro ⟨layout, hlayout, -, value, hvalue, hoffends⟩
  obtain ⟨state, next, htake⟩ := step_of_foldlM_ok h (Keyed.mem_of_find? hvalue)
  exact takeSection_no_offence htake layout hlayout rfl _ _ hoffends

theorem decode_first_offence (htable : OrderedTable table) (h : decode table = .error problem) :
    FirstOffence table problem := by
  obtain ⟨first, ⟨name, value⟩, rest, middle, rfl, hfirst, hentry⟩ := foldlM_eq_error h
  have hmem : (name, value) ∈ first ++ (name, value) :: rest := List.mem_append_right first List.mem_cons_self
  obtain ⟨layout, hlayout, rfl, spot, hoffends, hbefore⟩ := takeSection_first_offence (htable.values _ hmem) hentry
  have hvalue := Keyed.find?_of_mem htable.ascending.distinct hmem
  refine ⟨(layout.name, spot), ⟨layout, hlayout, rfl, value, hvalue, hoffends⟩, ?_⟩
  rintro ⟨_, spot'⟩ another ⟨layout', hlayout', rfl, value', hvalue', hoffends'⟩
  rcases List.mem_append.1 (Keyed.mem_of_find? hvalue') with hearlier | hlater
  · -- sections that stand before were read
    obtain ⟨state, next, htake⟩ := step_of_foldlM_ok hfirst hearlier
    exact (takeSection_no_offence htake layout' hlayout' rfl _ _ hoffends').elim
  · rcases List.mem_cons.1 hlater with heq | hlater
    · cases eq_of_name hlayout' hlayout (congrArg Prod.fst heq)
      cases heq
      rcases hbefore _ _ hoffends' with rfl | hspot
      · exact .inl rfl
      · exact .inr (.inr ⟨rfl, hspot⟩)
    · exact .inr (.inl ((List.pairwise_cons.1 (List.pairwise_append.1 htable.ascending).2.1).1 _ hlater))

/-- **A table that does not decode** is refused for its first offence, and every first offence is one that refuses. -/
theorem decode_eq_error (htable : OrderedTable table) :
    decode table = .error problem ↔ FirstOffence table problem := by
  refine ⟨decode_first_offence htable, fun hfirst => ?_⟩
  cases hdecode : decode table with
  | ok settings =>
    obtain ⟨place, hoffends, -⟩ := hfirst
    exact (decode_no_offence hdecode _ _ hoffends).elim
  | error other => rw [(decode_first_offence htable hdecode).unique hfirst]

/-! ## What the settings are -/

theorem standsForNumber_of_asUnsigned32 {value : Value} {n : UInt32} (h : asUnsigned32 value = .ok n) :
    StandsForNumber value n.toNat := by
  cases value with
  | integer i =>
    simp only [asUnsigned32] at h
    split_ifs at h with hrange
    cases h
    have hmod : i.toInt.toNat % 2 ^ 32 = i.toInt.toNat := Nat.mod_eq_of_lt (by have := hrange.2; omega)
    exact ⟨i, rfl, by rw [UInt32.toNat_ofNat', hmod, Int.toNat_of_nonneg hrange.1]⟩
  | _ => cases h

theorem standsForNumber_of_asUnsigned64 {value : Value} {n : UInt64} (h : asUnsigned64 value = .ok n) :
    StandsForNumber value n.toNat := by
  cases value with
  | integer i =>
    simp only [asUnsigned64] at h
    split_ifs at h with hrange
    cases h
    have hmod : i.toInt.toNat % 2 ^ 64 = i.toInt.toNat := Nat.mod_eq_of_lt (by have := i.toInt_lt; omega)
    exact ⟨i, rfl, by rw [UInt64.toNat_ofNat', hmod, Int.toNat_of_nonneg hrange]⟩
  | _ => cases h

theorem eq_of_asBoolean {value : Value} {result : Bool} (h : asBoolean value = .ok result) :
    value = .boolean result := by
  cases value with
  | boolean value => cases h; rfl
  | _ => cases h

theorem standsForText_of_asText {value : Value} {text : String} (h : asText value = .ok text) :
    StandsForText value text := by
  cases value with
  | text text => cases h; exact .inl rfl
  | moment moment => cases h; exact .inr ⟨moment, rfl, rfl⟩
  | _ => cases h

theorem standsForLevel_of_asLevel {value : Value} {level : Level} (h : asLevel value = .ok level) :
    StandsForLevel value level := by
  match value, h with
  | .text name, h => exact .inl (congrArg Value.text (levelNamed_eq_ok.1 h))
  | .table [(name, payload)], h =>
    rw [asLevel_single] at h
    obtain ⟨named, hnamed, h⟩ := bind_eq_ok.1 h
    split_ifs at h
    cases h
    rw [levelNamed_eq_ok.1 hnamed]
    exact .inr ⟨payload, rfl⟩

/-- a field of a section that was read is what its value stands for, or its default -/
theorem Section.Follows.given_of_reads {α β : Type} {part : Section α} {layout : Layout} (h : part.Follows layout)
    (hd : part.HasDistinctKeys) {key : String} {read : Value → Except Flaw β} {view : α → β}
    (hshows : part.Shows key read view) {standsFor : Value → β → Prop}
    (hstands : ∀ value result, read value = .ok result → standsFor value result) (htable : OrderedTable table)
    {before after : α} (hread : ReadsSection part layout.name (Keyed.find? layout.name table) before after) :
    Given standsFor (layout.lookUp key table) (view before) (view after) := by
  have hreads := hread.setting hd hshows fun _ hv => htable.find? hv
  simp only [h.given] at hreads
  unfold Layout.lookUp
  cases hsource : (Keyed.find? layout.name table).bind fun value => Keyed.find? key (layout.given value) with
  | none => rw [hsource] at hreads; exact hreads
  | some given => rw [hsource] at hreads; exact hstands _ _ hreads

theorem decode_fieldsGiven (htable : OrderedTable table) (h : decode table = .ok settings) :
    FieldsGiven table settings := by
  obtain ⟨hprobe, hheartbeat, hlog⟩ := decode_sections htable h
  exact {
    fileMode := probe_follows.given_of_reads probeSection_keys probe_shows_fileMode
      (fun _ _ => standsForNumber_of_asUnsigned32) htable hprobe
    verify := probe_follows.given_of_reads probeSection_keys probe_shows_verify
      (fun _ _ => eq_of_asBoolean) htable hprobe
    sync := probe_follows.given_of_reads probeSection_keys probe_shows_sync
      (fun _ _ => eq_of_asBoolean) htable hprobe
    interval := heartbeat_follows.given_of_reads heartbeatSection_keys heartbeat_shows_interval
      (fun _ _ => standsForNumber_of_asUnsigned64) htable hheartbeat
    message := heartbeat_follows.given_of_reads heartbeatSection_keys heartbeat_shows_message
      (fun _ _ => standsForText_of_asText) htable hheartbeat
    level := log_follows.given_of_reads logSection_keys log_shows_level
      (fun _ _ => standsForLevel_of_asLevel) htable hlog }

/-- **A table that decodes** is one that breaks no rule, and decodes to what it gives. -/
theorem decode_eq_ok (htable : OrderedTable table) :
    decode table = .ok settings ↔ Decodable table ∧ FieldsGiven table settings := by
  refine ⟨fun h => ⟨decodable_iff.2 (decode_no_offence h), decode_fieldsGiven htable h⟩, ?_⟩
  rintro ⟨hdecodable, hgiven⟩
  cases hdecode : decode table with
  | ok other => rw [(decode_fieldsGiven htable hdecode).unique hgiven]
  | error problem =>
    obtain ⟨place, hoffends, -⟩ := decode_first_offence htable hdecode
    exact (decodable_iff.1 hdecodable _ _ hoffends).elim

/-- tables that break the same rules and give the same settings decode alike -/
theorem decode_eq_of_same {other : Table} (htable : OrderedTable table) (hother : OrderedTable other)
    (hoffends : ∀ place problem, Offends table place problem ↔ Offends other place problem)
    (hgiven : ∀ settings, FieldsGiven table settings → FieldsGiven other settings) : decode table = decode other := by
  cases hdecode : decode table with
  | ok settings =>
    obtain ⟨hdecodable, hfields⟩ := (decode_eq_ok htable).1 hdecode
    rw [decodable_iff] at hdecodable
    refine ((decode_eq_ok hother).2 ⟨decodable_iff.2 fun place problem h => ?_, hgiven settings hfields⟩).symm
    exact hdecodable place problem ((hoffends place problem).2 h)
  | error problem =>
    obtain ⟨place, hplace, hfirst⟩ := (decode_eq_error htable).1 hdecode
    refine ((decode_eq_error hother).2 ⟨place, (hoffends _ _).1 hplace, fun other another h => ?_⟩).symm
    exact hfirst other another ((hoffends _ _).2 h)

/-- an array of a section decodes as the table that gives its items by key -/
theorem decode_byKey (htable : OrderedTable table) {layout : Layout} (hmem : layout ∈ layouts) {items : List Value}
    (hitems : Keyed.find? layout.name table = some (.array items)) (hlength : items.length ≤ layout.fields.length) :
    decode table = .ok settings ↔
      decode (Keyed.put layout.name (.table (layout.byKey items)) table) = .ok settings := by
  have hvalues : ∀ item ∈ items, item.Ordered := ordered_array.1 (htable.find? hitems)
  have hbyKey : (Value.table (layout.byKey items)).Ordered := by
    refine .table (Keyed.ascending_inOrder _) fun entry hentry => hvalues _ ?_
    exact (List.of_mem_zip (Keyed.mem_of_mem_inOrder hentry : (entry.1, entry.2) ∈ List.zip _ items)).2
  have hlookUp := lookUp_byKey hmem hitems
  rw [decode_eq_ok htable, decode_eq_ok (htable.put layout.name hbyKey), decodable_byKey hmem hitems hlength]
  refine and_congr_right fun _ => ⟨FieldsGiven.congr ?_, FieldsGiven.congr ?_⟩
  · exact fun other hother field _ => (hlookUp other hother field.key).symm
  · exact fun other hother field _ => hlookUp other hother field.key

/-- what there is to say about decoding a table -/
structure DecodedByRules (table : Table) : Prop where
  /-- the tables that decode are those whose sections are all admitted -/
  succeeds : (∃ settings, decode table = .ok settings) ↔ Decodable table
  /-- what is decoded is what the table gives, and defaults -/
  fields : ∀ settings, decode table = .ok settings → FieldsGiven table settings
  /-- an array gives the first fields of its section -/
  arrays : ∀ layout ∈ layouts, ∀ items, Keyed.find? layout.name table = some (.array items) →
    items.length ≤ layout.fields.length → ∀ settings, decode table = .ok settings ↔
      decode (Keyed.put layout.name (.table (layout.byKey items)) table) = .ok settings
  /-- the problem of a table that does not decode is its first offence -/
  refused : ∀ problem, decode table = .error problem ↔ FirstOffence table problem

/-- **Which tables decode**, to what, and what is said of the others. -/
theorem decode_exactly (table : Table) (htable : OrderedTable table) : DecodedByRules table where
  succeeds := by
    constructor
    · rintro ⟨settings, h⟩
      exact ((decode_eq_ok htable).1 h).1
    · intro hdecodable
      cases hdecode : decode table with
      | ok settings => exact ⟨settings, rfl⟩
      | error problem =>
        obtain ⟨place, hoffends, -⟩ := decode_first_offence htable hdecode
        exact (decodable_iff.1 hdecodable _ _ hoffends).elim
  fields _ h := decode_fieldsGiven htable h
  arrays _ hmem _ hitems hlength _ := decode_byKey htable hmem hitems hlength
  refused _ := decode_eq_error htable

/-! A table with an array and a level with an empty table, and one that breaks a rule in every section. -/

def mixedTable : Table := [
  ("heartbeat", .array [.integer 5]),
  ("log", .table [("level", .table [("debug", .array [])])])]

def brokenTable : Table := [
  ("heartbeat", .array [.integer 5, .text "up", .boolean true]),
  ("log", .table [("level", .text "Loud")]),
  ("probe", .table [("file_mode", .integer (-1)), ("verify", .integer 1)])]

theorem mixedTable_ordered : OrderedTable mixedTable :=
  ⟨by unfold Keyed.Ascending; decide, by simp [mixedTable, Keyed.Ascending]⟩

theorem brokenTable_ordered : OrderedTable brokenTable :=
  ⟨by unfold Keyed.Ascending; decide, by simp [brokenTable, Keyed.Ascending, -String.lt_iff_ltb]⟩

theorem mixed_and_broken_exactly :
    OrderedTable mixedTable ∧ Decodable mixedTable ∧
    decode [("heartbeat", .table [("interval_secs", .integer 5)]),
      ("log", .table [("level", .table [("debug", .array [])])])] =
      .ok { heartbeat := { intervalSecs := 5 }, log := { level := .debug } } ∧
    OrderedTable brokenTable ∧ FirstOffence brokenTable { flaw := .tooLong 3, path := ["heartbeat"] } := by
  have hmixed := decode_exactly mixedTable mixedTable_ordered
  have hbroken := decode_exactly brokenTable brokenTable_ordered
  have hdecode : decode mixedTable = .ok { heartbeat := { intervalSecs := 5 }, log := { level := .debug } } := rfl
  refine ⟨mixedTable_ordered, hmixed.succeeds.1 ⟨_, hdecode⟩, ?_, brokenTable_ordered, (hbroken.refused _).1 rfl⟩
  exact (hmixed.arrays heartbeatLayout (by simp [layouts]) [.integer 5] rfl (by decide) _).1 hdecode

end BlockProbe.Settings
