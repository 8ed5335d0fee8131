/-
Which layer a setting comes from.

The layers of loaded settings are, from the highest down: the environment, the project's file, the operator's file, and
the defaults. A layer says nothing about a setting, or says something that may or may not be a value; the highest layer
that says anything decides (`highest`).

- `fromFiles`: what the two files say together. A section that is a table in both files is looked up key by key; any
  other section is taken whole from the upper file that has it.
- `reads_chosen`: decoding the overlaid files gives what `fromFiles` says.
- `loaded_fromLayers`: settings that could be loaded come, each on its own, from the highest layer.
-/
import BlockProbe.Proofs.Settings.Decode
import BlockProbe.Proofs.Settings.Layers
import BlockProbe.Proofs.Settings.Overrides

namespace BlockProbe.Settings

open BlockProbe.Toml

/-! ## The two files -/

/-- the value that two files, each with or without a section, leave for one of its settings -/
def Section.chosen {α : Type} (part : Section α) (key : String) : Option Value → Option Value → Option Value
  | some (.table below), some (.table above) => (Keyed.find? key above).or (Keyed.find? key below)
  | _, some above => Keyed.find? key (part.given above)
  | some below, none => Keyed.find? key (part.given below)
  | none, none => none

theorem Section.chosen_lower {α : Type} (part : Section α) (key : String) (lower : Option Value) :
    part.chosen key lower none = lower.bind fun value => Keyed.find? key (part.given value) := by
  cases lower with
  | none => rfl
  | some below => cases below <;> rfl

theorem Section.chosen_tables {α : Type} (part : Section α) (key : String) (below above : Table) :
    part.chosen key (some (.table below)) (some (.table above)) =
      (Keyed.find? key above).or (Keyed.find? key below) := rfl

theorem Section.chosen_upper {α : Type} (part : Section α) (key : String) {lower : Option Value} {above : Value}
    (h : ∀ low high, lower = some (.table low) ∧ above = .table high → False) :
    part.chosen key lower (some above) = Keyed.find? key (part.given above) := by
  cases lower with
  | none => rfl
  | some below =>
    cases below with
    | table low =>
      cases above with
      | table high => exact (h low high ⟨rfl, rfl⟩).elim
      | _ => rfl
    | _ => rfl

/-- is a setting a table in both files, in a section that is a table in both? -/
def TableInBoth (name key : String) (lower upper : Table) : Prop :=
  ∃ below above low high, Keyed.find? name lower = some (.table below) ∧ Keyed.find? name upper = some (.table above) ∧
    Keyed.find? key below = some (.table low) ∧ Keyed.find? key above = some (.table high)

/-- what is under a key of two overlaid tables -/
def laid (lower upper : Option Value) : Option Value :=
  match upper with
  | some value => some (overlayValue lower value)
  | none => lower

theorem find?_merged {lower upper : Option Table} (hlower : OrderedTable (tableOf lower))
    (hupper : OrderedTable (tableOf upper)) (key : String) :
    Keyed.find? key (merged lower upper) =
      laid (Keyed.find? key (tableOf lower)) (Keyed.find? key (tableOf upper)) := by
  have hbase : Keyed.find? key (overlay [] (tableOf lower)) = Keyed.find? key (tableOf lower) := by
    rw [find?_overlay [] hlower.ascending.distinct]
    cases Keyed.find? key (tableOf lower) with
    | none => rfl
    | some value => simp [Keyed.find?, overlayValue_of_not_table]
  unfold merged
  rw [find?_overlay _ hupper.ascending.distinct, hbase]
  rfl

theorem alikeUnder_laid {keys : String → Prop} {lower lowerOther upper upperOther : Option Value}
    (hlower : AlikeUnder keys lower lowerOther) (hupper : AlikeUnder keys upper upperOther)
    (hordered : ∀ value, upper = some value → value.Ordered)
    (hother : ∀ value, upperOther = some value → value.Ordered) :
    AlikeUnder keys (laid lower upper) (laid lowerOther upperOther) := by
  cases hupper with
  | same upper =>
    cases upper with
    | none => exact hlower
    | some value => exact hlower.overlayValue (.same _) (hordered value rfl) (hordered value rfl)
  | tables h => exact hlower.overlayValue (.tables h) (hordered _ rfl) (hother _ rfl)

/-- **Field by field.** What overlaid sections give for a setting that is not a table in both is what is chosen. -/
theorem reads_chosen {α β : Type} {part : Section α} {name key : String} {read : Value → Except Flaw β}
    {lower upper : Table} (hupper : OrderedTable upper)
    (htable : TableInBoth name key lower upper → ∀ entries value, read (.table entries) ≠ .ok value)
    {before after : β}
    (h : Reads read ((laid (Keyed.find? name lower) (Keyed.find? name upper)).bind
      fun value => Keyed.find? key (part.given value)) before after) :
    Reads read (part.chosen key (Keyed.find? name lower) (Keyed.find? name upper)) before after := by
  cases hup : Keyed.find? name upper with
  | none =>
    rw [Section.chosen_lower]
    rw [hup] at h
    exact h
  | some above =>
    rw [hup] at h
    by_cases hboth : ∃ low high, Keyed.find? name lower = some (.table low) ∧ above = .table high
    · obtain ⟨low, high, hlow, rfl⟩ := hboth
      have hhigh : Keyed.Distinct high := (hupper.find? hup).toTable.ascending.distinct
      rw [hlow] at h
      rw [hlow, Section.chosen_tables]
      replace h : Reads read (Keyed.find? key (overlay low high)) before after := h
      rw [find?_overlay low hhigh] at h
      cases hkey : Keyed.find? key high with
      | none => rw [hkey] at h; exact h
      | some value =>
        rw [hkey] at h
        by_cases htables : ∃ l u, Keyed.find? key low = some (.table l) ∧ value = .table u
        · obtain ⟨l, u, hl, rfl⟩ := htables
          rw [hl] at h
          exact absurd h (htable ⟨low, high, l, u, hlow, hup, hl, hkey⟩ _ _)
        · have hvalue : overlayValue (Keyed.find? key low) value = value :=
            overlayValue_of_not_table fun l u hlu => htables ⟨l, u, hlu⟩
          exact hvalue ▸ (h : read (overlayValue (Keyed.find? key low) value) = .ok after)
    · have hnot : ∀ low high, Keyed.find? name lower = some (.table low) ∧ above = .table high → False :=
        fun low high hlh => hboth ⟨low, high, hlh⟩
      have hlaid : laid (Keyed.find? name lower) (some above) = some above :=
        congrArg some (overlayValue_of_not_table hnot)
      rw [hlaid] at h
      rw [Section.chosen_upper part key hnot]
      exact h

/-- what two files say about a setting of a section -/
def fromFiles {α β : Type} (part : Section α) (name key : String) (read : Value → Except Flaw β)
    (lower upper : Table) : Option (Option β) :=
  (part.chosen key (Keyed.find? name lower) (Keyed.find? name upper)).map fun value => (read value).toOption

/-! ## All layers -/

/-- what a variable says about a setting -/
def fromEnvironment {ε β : Type} (environment : Environment) (name : String) (read : String → Except ε β) :
    Option (Option β) :=
  (environment name).map fun text => (read text).toOption

/-- the value that the highest layer saying anything gives, the highest layer coming first -/
def highest {β : Type} (layers : List (Option (Option β))) : Option β := (layers.findSome? id).join

/-- a setting that was read comes from the layer it was read from, or from the defaults -/
theorem highest_reads {β : Type} {read : Value → Except Flaw β} {source : Option Value} {standard value : β}
    (h : Reads read source standard value) :
    highest [source.map fun given => (read given).toOption, some (some standard)] = some value := by
  cases source with
  | none => exact congrArg some (Eq.symm h)
  | some given => exact toOption_eq_some.2 h

theorem highest_fromEnvironment {ε β : Type} {environment : Environment} {name : String} {read : String → Except ε β}
    {before after : β} (h : ReadsVariable environment name read before after) {rest : List (Option (Option β))}
    (hrest : highest rest = some before) : highest (fromEnvironment environment name read :: rest) = some after := by
  unfold fromEnvironment
  unfold ReadsVariable at h
  cases henv : environment name with
  | none => rw [henv] at h; exact hrest.trans (congrArg some (Eq.symm h))
  | some text => rw [henv] at h; exact toOption_eq_some.2 h

/-- a value that may be given goes over the layers below -/
theorem highest_option {β : Type} (given : Option β) {rest : List (Option (Option β))} {below : β}
    (hrest : highest rest = some below) : highest (given.map some :: rest) = some (given.getD below) := by
  cases given with
  | none => exact hrest
  | some value => rfl

/-! ## Loaded settings -/

/-- every setting comes from the highest layer that says something about it; of a level that is a table in both files,
which is looked up in the two tables key by key, nothing is said -/
structure FromLayers (environment : Environment) (lower upper : Table) (settings : Settings) : Prop where
  fileMode : highest [fromFiles probeSection "probe" "file_mode" asUnsigned32 lower upper,
    some (some defaultFileMode)] = some settings.probe.fileMode
  verify : highest [fromEnvironment environment "NVPROBE_VERIFY" (parseBoolean "NVPROBE_VERIFY"),
    fromFiles probeSection "probe" "verify" asBoolean lower upper, some (some true)] = some settings.probe.verify
  sync : highest [fromEnvironment environment "NVPROBE_SYNC" (parseBoolean "NVPROBE_SYNC"),
    fromFiles probeSection "probe" "sync" asBoolean lower upper, some (some false)] = some settings.probe.sync
  interval : highest [fromEnvironment environment "NVPROBE_HEARTBEAT_SECS" readInterval,
    fromFiles heartbeatSection "heartbeat" "interval_secs" asUnsigned64 lower upper,
    some (some 10)] = some settings.heartbeat.intervalSecs
  message : highest [fromFiles heartbeatSection "heartbeat" "message" asText lower upper,
    some (some "- Sleeping")] = some settings.heartbeat.message
  level : ¬ TableInBoth "log" "level" lower upper →
    highest [fromEnvironment environment "NVPROBE_LOG" Level.parse,
      fromFiles logSection "log" "level" asLevel lower upper, some (some .warn)] = some settings.log.level

/-- **Decoded settings, field by field.** -/
theorem reads_fromFiles {α β : Type} {part : Section α} (hd : part.HasDistinctKeys) {name key : String}
    {read : Value → Except Flaw β} {view : α → β} (hshows : part.Shows key read view) {lower upper : Option Table}
    (hlower : OrderedTable (tableOf lower)) (hupper : OrderedTable (tableOf upper))
    (htable : TableInBoth name key (tableOf lower) (tableOf upper) →
      ∀ entries value, read (.table entries) ≠ .ok value)
    {before after : α} (h : ReadsSection part name (Keyed.find? name (merged lower upper)) before after) :
    highest [fromFiles part name key read (tableOf lower) (tableOf upper), some (some (view before))] =
      some (view after) := by
  have hsetting := h.setting hd hshows fun value hvalue => (merged_ordered hlower hupper).find? hvalue
  rw [find?_merged hlower hupper] at hsetting
  exact highest_reads (reads_chosen hupper htable hsetting)

/-- **Loaded settings come from the highest layer.** Of two files in key order and an environment that give settings. -/
theorem loaded_fromLayers {environment : Environment} {lower upper : Option Table}
    (hlower : OrderedTable (tableOf lower)) (hupper : OrderedTable (tableOf upper)) {settings : Settings}
    (h : (ofLayers [lower, upper] >>= finish environment) = .ok settings) :
    FromLayers environment (tableOf lower) (tableOf upper) settings := by
  obtain ⟨decoded, hfiles, hfinish⟩ := bind_eq_ok.1 h
  obtain ⟨hinterval, hverify, hsync, hlog, hmode, hmessage⟩ := overrides_taken (finish_eq_ok.1 hfinish).1
  rw [ofLayers_eq, mapError_eq_ok] at hfiles
  obtain ⟨hprobe, hheartbeat, hlogs⟩ := decode_sections (merged_ordered hlower hupper) hfiles
  refine ⟨?_, ?_, ?_, ?_, ?_, ?_⟩
  · rw [hmode]
    exact reads_fromFiles probeSection_keys probe_shows_fileMode hlower hupper
      (fun _ _ _ hread => by cases hread) hprobe
  · exact highest_fromEnvironment hverify (reads_fromFiles probeSection_keys probe_shows_verify hlower hupper
      (fun _ _ _ hread => by cases hread) hprobe)
  · exact highest_fromEnvironment hsync (reads_fromFiles probeSection_keys probe_shows_sync hlower hupper
      (fun _ _ _ hread => by cases hread) hprobe)
  · exact highest_fromEnvironment hinterval (reads_fromFiles heartbeatSection_keys heartbeat_shows_interval
      hlower hupper (fun _ _ _ hread => by cases hread) hheartbeat)
  · rw [hmessage]
    exact reads_fromFiles heartbeatSection_keys heartbeat_shows_message hlower hupper
      (fun _ _ _ hread => by cases hread) hheartbeat
  · intro hlevel
    exact highest_fromEnvironment hlog (reads_fromFiles logSection_keys log_shows_level hlower hupper
      (fun hboth => absurd hboth hlevel) hlogs)

end BlockProbe.Settings
