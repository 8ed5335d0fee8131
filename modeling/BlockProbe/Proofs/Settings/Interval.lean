/-
Settings that differ in their interval alone.

Two loads are compared stage by stage. What is alike but for the interval stays so: values that are laid over each
other (`sameButInterval_laid`), tables that are merged (`sameButInterval_merged`), settings that are decoded
(`decode_sameButInterval`) and settings that are overridden (`overrides_sameButInterval`).
-/
import BlockProbe.Proofs.Settings.Precedence

namespace BlockProbe.Settings

open BlockProbe.Toml

/-- two values of the heartbeat section that give the same, the interval apart: as tables by key, as arrays by place -/
inductive SameButInterval : Option Value → Option Value → Prop
  | same (value : Option Value) : SameButInterval value value
  | tables {first second : Table}
    (h : ∀ key, key ≠ "interval_secs" → Keyed.find? key first = Keyed.find? key second) :
    SameButInterval (some (.table first)) (some (.table second))
  | arrays (first second : Value) (rest : List Value) :
    SameButInterval (some (.array (first :: rest))) (some (.array (second :: rest)))

/-- two tables that hold the same, the interval apart -/
structure TablesSameButInterval (first second : Table) : Prop where
  others : ∀ name, name ≠ "heartbeat" → Keyed.find? name first = Keyed.find? name second
  heartbeat : SameButInterval (Keyed.find? "heartbeat" first) (Keyed.find? "heartbeat" second)

/-- two settings that are the same, the interval apart -/
structure SettingsSameButInterval (first second : Settings) : Prop where
  probe : first.probe = second.probe
  message : first.heartbeat.message = second.heartbeat.message
  log : first.log = second.log

/-! ## Merging -/

theorem SameButInterval.of_alike {value other : Option Value} (h : AlikeUnder (· ≠ "interval_secs") value other) :
    SameButInterval value other := by
  cases h with
  | same => exact .same value
  | tables h => exact .tables h

theorem SameButInterval.alike_or_arrays {value other : Option Value} (h : SameButInterval value other) :
    AlikeUnder (· ≠ "interval_secs") value other ∨
      ∃ first second rest, value = some (.array (first :: rest)) ∧ other = some (.array (second :: rest)) := by
  cases h with
  | same => exact .inl (.same value)
  | tables h => exact .inl (.tables h)
  | arrays first second rest => exact .inr ⟨first, second, rest, rfl, rfl⟩

theorem sameButInterval_laid {lower lowerOther upper upperOther : Option Value}
    (hlower : SameButInterval lower lowerOther) (hupper : SameButInterval upper upperOther)
    (hordered : ∀ value, upper = some value → value.Ordered)
    (hother : ∀ value, upperOther = some value → value.Ordered) :
    SameButInterval (laid lower upper) (laid lowerOther upperOther) := by
  rcases hupper.alike_or_arrays with habove | ⟨first, second, rest, rfl, rfl⟩
  · rcases hlower.alike_or_arrays with hbelow | ⟨first, second, rest, rfl, rfl⟩
    · exact .of_alike (alikeUnder_laid hbelow habove hordered hother)
    · -- what is laid over an array takes its place
      have hown : ∀ items value, overlayValue (some (.array items)) value = value := fun _ _ =>
        overlayValue_of_not_table fun _ _ hb => by cases hb.1
      cases habove with
      | same upper =>
        cases upper with
        | none => exact hlower
        | some value =>
          simp only [laid, hown]
          exact hupper
      | tables _ =>
        simp only [laid, hown]
        exact hupper
  · have hown : ∀ below item, overlayValue below (.array (item :: rest)) = .array (item :: rest) := fun _ _ => rfl
    simp only [laid, hown]
    exact hupper

theorem sameButInterval_merged {lower lowerOther upper upperOther : Option Table}
    (hlower : OrderedTable (tableOf lower)) (hlowerOther : OrderedTable (tableOf lowerOther))
    (hupper : OrderedTable (tableOf upper)) (hupperOther : OrderedTable (tableOf upperOther))
    (hbelow : TablesSameButInterval (tableOf lower) (tableOf lowerOther))
    (habove : TablesSameButInterval (tableOf upper) (tableOf upperOther)) :
    TablesSameButInterval (merged lower upper) (merged lowerOther upperOther) where
  others := by
    intro name hname
    rw [find?_merged hlower hupper, find?_merged hlowerOther hupperOther, hbelow.others name hname,
      habove.others name hname]
  heartbeat := by
    rw [find?_merged hlower hupper, find?_merged hlowerOther hupperOther]
    exact sameButInterval_laid hbelow.heartbeat habove.heartbeat (fun _ h => hupper.find? h)
      (fun _ h => hupperOther.find? h)

/-! ## Decoding -/

theorem Reads.unique {β : Type} {read : Value → Except Flaw β} {source : Option Value} {before after other : β}
    (h : Reads read source before after) (hother : Reads read source before other) : after = other :=
  Through.unique (fun _ _ _ _ hafter hother => Except.ok.inj (hafter.symm.trans hother)) h hother

theorem ReadsSection.unique {α : Type} {part : Section α} {name : String} {source : Option Value}
    {before after other : α} (h : ReadsSection part name source before after)
    (hother : ReadsSection part name source before other) : after = other :=
  Through.unique (fun _ _ _ _ hafter hother => Except.ok.inj (hafter.symm.trans hother)) h hother

/-- the message is given alike -/
theorem SameButInterval.message {value other : Option Value} (h : SameButInterval value other) :
    (value.bind fun value => Keyed.find? "message" (heartbeatSection.given value)) =
      other.bind fun value => Keyed.find? "message" (heartbeatSection.given value) := by
  cases h with
  | same value => rfl
  | tables h => exact h "message" (by decide)
  | arrays first second rest => rfl

theorem decode_sameButInterval {first second : Table} (hfirst : OrderedTable first) (hsecond : OrderedTable second)
    (h : TablesSameButInterval first second) {settings other : Settings} (hdecode : decode first = .ok settings)
    (hother : decode second = .ok other) : SettingsSameButInterval settings other := by
  obtain ⟨hprobe, hheartbeat, hlog⟩ := decode_sections hfirst hdecode
  obtain ⟨hprobeOther, hheartbeatOther, hlogOther⟩ := decode_sections hsecond hother
  have hmessage := hheartbeat.setting heartbeatSection_keys heartbeat_shows_message fun _ hv => hfirst.find? hv
  have hmessageOther := hheartbeatOther.setting heartbeatSection_keys heartbeat_shows_message
    fun _ hv => hsecond.find? hv
  rw [h.others "probe" (by decide)] at hprobe
  rw [h.others "log" (by decide)] at hlog
  rw [h.heartbeat.message] at hmessage
  exact ⟨hprobe.unique hprobeOther, hmessage.unique hmessageOther, hlog.unique hlogOther⟩

/-! ## Overriding -/

/-- the variables that settings are overridden from, the interval's apart, are set alike -/
def SameVariables (first second : Environment) : Prop :=
  ∀ name, name ≠ "NVPROBE_HEARTBEAT_SECS" → first name = second name

theorem ReadsVariable.unique {ε β : Type} {environment : Environment} {name : String} {read : String → Except ε β}
    {before after other : β} (h : ReadsVariable environment name read before after)
    (hother : ReadsVariable environment name read before other) : after = other :=
  Through.unique (fun _ _ _ _ hafter hother => Except.ok.inj (hafter.symm.trans hother)) h hother

theorem overrides_sameButInterval {first second : Environment} (henvironment : SameVariables first second)
    {before beforeOther after afterOther : Settings} (h : SettingsSameButInterval before beforeOther)
    (htaken : applyOverrides first before = (after, .ok ()))
    (hother : applyOverrides second beforeOther = (afterOther, .ok ())) : SettingsSameButInterval after afterOther := by
  obtain ⟨-, hverify, hsync, hlevel, hmode, hmessage⟩ := overrides_taken htaken
  obtain ⟨-, hverifyOther, hsyncOther, hlevelOther, hmodeOther, hmessageOther⟩ := overrides_taken hother
  unfold ReadsVariable at hverify hsync hlevel
  rw [henvironment _ (by decide), h.probe] at hverify hsync
  rw [henvironment _ (by decide), h.log] at hlevel
  have hsameVerify := ReadsVariable.unique hverify hverifyOther
  have hsameSync := ReadsVariable.unique hsync hsyncOther
  have hsameLevel := ReadsVariable.unique hlevel hlevelOther
  have hsameMode : after.probe.fileMode = afterOther.probe.fileMode := by rw [hmode, hmodeOther, h.probe]
  refine ⟨?_, by rw [hmessage, hmessageOther, h.message], ?_⟩
  · cases hafter : after.probe
    cases hafterOther : afterOther.probe
    simp_all
  · cases hafter : after.log
    cases hafterOther : afterOther.log
    simp_all

end BlockProbe.Settings
