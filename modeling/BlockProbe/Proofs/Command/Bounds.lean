/-
What an integer among the settings comes to.

A file mode and an interval are integers of 64 bits with a sign where they are written, of 32 and 64 bits without one
where they are kept, and they are checked once everything is overridden. Where every other setting is valid the integer
alone decides whether settings load, and if they do not, why.

- `ValidBut`: every setting but one is valid.
- `load_fileMode`, `load_interval`: what loading comes to, integer by integer.
-/
import BlockProbe.Proofs.Command.Masked
import BlockProbe.Proofs.Settings.Fits

namespace BlockProbe.Command

open BlockProbe.Settings
open BlockProbe.Toml

/-- the interval that the environment and the merged table leave in force -/
def intervalInForce (environment : Environment) (table : Table) : Option UInt64 :=
  highest [fromEnvironment environment "NVPROBE_HEARTBEAT_SECS" readInterval,
    (heartbeatSection.lookUp "heartbeat" "interval_secs" table).map fun given => (asUnsigned64 given).toOption,
    some (some 10)]

/-- the file mode that the merged table leaves in force -/
def fileModeInForce (table : Table) : Option UInt32 :=
  highest [(probeSection.lookUp "probe" "file_mode" table).map fun given => (asUnsigned32 given).toOption,
    some (some defaultFileMode)]

/-- every setting is valid, the skipped one apart: the sections give values that are taken, the variables that are set
are taken, and what they leave in force passes the check -/
structure ValidBut (skipped : String × String) (environment : Environment) (table : Table) : Prop where
  fits : Fits [skipped] table
  variablesFit : VariablesFit environment
  interval : skipped ≠ ("heartbeat", "interval_secs") → intervalInForce environment table ≠ some 0
  fileMode : skipped ≠ ("probe", "file_mode") → ∀ mode, fileModeInForce table = some mode → mode ≤ greatestFileMode

variable {site : Site} {lower upper : Option Table} {settings : Settings} {n : Int64}

/-! ## Settings that are given -/

theorem gives_of_fits (hlayers : HasLayers site.tree site.directory site.home lower upper)
    (h : Fits [] (merged lower upper)) (hvariables : VariablesFit site.environment) :
    ∃ settings, Gives site lower upper settings := by
  obtain ⟨before, hdecoded⟩ := decode_of_fits h
  obtain ⟨after, htaken⟩ := overrides_of_fit hvariables before
  refine ⟨after, hlayers, before, ?_, htaken⟩
  rw [ofLayers_eq]
  exact mapError_eq_ok.2 hdecoded

theorem Gives.inForce (h : Gives site lower upper settings) :
    fileModeInForce (merged lower upper) = some settings.probe.fileMode ∧
      intervalInForce site.environment (merged lower upper) = some settings.heartbeat.intervalSecs := by
  obtain ⟨before, hdecoded, htaken⟩ := h.settings
  obtain ⟨hlower, hupper⟩ := h.layers.ordered
  have hordered := merged_ordered hlower hupper
  rw [ofLayers_eq, mapError_eq_ok] at hdecoded
  obtain ⟨hprobe, hheartbeat, -⟩ := decode_sections hordered hdecoded
  obtain ⟨hinterval, -, -, -, hmode, -⟩ := overrides_taken htaken
  have hreadMode := hprobe.setting probeSection_keys probe_shows_fileMode fun _ hvalue => hordered.find? hvalue
  have hreadInterval := hheartbeat.setting heartbeatSection_keys heartbeat_shows_interval
    fun _ hvalue => hordered.find? hvalue
  constructor
  · rw [hmode]
    exact highest_reads hreadMode
  · exact highest_fromEnvironment hinterval (highest_reads hreadInterval)

/-- a setting that refuses its value is a problem of the table, if all others take theirs -/
theorem load_of_refused {α : Type} {part : Section α} {name : String} (hunder : part.Under name)
    (hd : part.HasDistinctKeys) {setting : Setting α} (hmem : setting ∈ part.settings)
    (hlayers : HasLayers site.tree site.directory site.home lower upper)
    (h : Fits [(name, setting.key)] (merged lower upper))
    (hfits : ∀ value, (name, value) ∈ merged lower upper → part.Fits (· = setting.key) value) {given : Value}
    (hgiven : part.lookUp name setting.key (merged lower upper) = some given) {flaw : Flaw}
    (hrefuses : setting.Refuses given flaw) :
    ∃ value, Keyed.find? name (merged lower upper) = some value ∧
      load site.tree site.directory site.home site.environment =
        .failed (.misshapen { flaw, path := Section.placeOf [name] setting.key value }) := by
  have hordered := merged_ordered hlayers.ordered.1 hlayers.ordered.2
  obtain ⟨value, hvalue, hdecode⟩ := decode_of_refused hunder hd hmem hordered h hfits hgiven hrefuses
  refine ⟨value, hvalue, ?_⟩
  rw [load_of_layers hlayers, ofLayers_eq, hdecode]
  rfl

theorem not_loads_of_failed {error : LoadError}
    (h : load site.tree site.directory site.home site.environment = .failed error) :
    ¬ ∃ settings, load site.tree site.directory site.home site.environment = .done settings := by
  rintro ⟨settings, hload⟩
  rw [h] at hload
  cases hload

/-- settings that pass the check load -/
theorem Gives.loads (h : Gives site lower upper settings) (hinterval : settings.heartbeat.intervalSecs ≠ 0)
    (hmode : settings.probe.fileMode ≤ greatestFileMode) :
    Settings.load site.tree site.directory site.home site.environment = .done settings := by
  rw [h.load, checked_passed hinterval (UInt32.not_lt.2 hmode)]
  rfl

/-! ## File modes -/

theorem asUnsigned32_of_fits (hlow : 0 ≤ n.toInt) (hhigh : n.toInt < 0x100000000) :
    asUnsigned32 (.integer n) = .ok (UInt32.ofNat n.toInt.toNat) := if_pos ⟨hlow, hhigh⟩

theorem asUnsigned32_of_out (h : n.toInt < 0 ∨ 0x100000000 ≤ n.toInt) :
    asUnsigned32 (.integer n) = .error (.outOfRange n .unsigned32) := if_neg (by omega)

theorem toNat_ofNat_mode (hlow : 0 ≤ n.toInt) (hhigh : n.toInt < 0x100000000) :
    ((UInt32.ofNat n.toInt.toNat).toNat : Int) = n.toInt := by
  have hsize : n.toInt.toNat < UInt32.size := by rw [UInt32.size]; omega
  rw [UInt32.toNat_ofNat_of_lt' hsize, Int.toNat_of_nonneg hlow]

theorem ofNat_le_greatest (hlow : 0 ≤ n.toInt) (hhigh : n.toInt ≤ 4095) :
    UInt32.ofNat n.toInt.toNat ≤ greatestFileMode := by
  have hvalue := toNat_ofNat_mode hlow (by omega)
  have hgreatest : greatestFileMode.toNat = 4095 := rfl
  rw [UInt32.le_iff_toNat_le, hgreatest]
  omega

theorem greatest_lt_ofNat (hlow : 4095 < n.toInt) (hhigh : n.toInt < 0x100000000) :
    greatestFileMode < UInt32.ofNat n.toInt.toNat := by
  have hvalue := toNat_ofNat_mode (by omega) hhigh
  have hgreatest : greatestFileMode.toNat = 4095 := rfl
  rw [UInt32.lt_iff_toNat_lt, hgreatest]
  omega

/-- a file mode that does not fit in 32 bits is a problem of the table -/
theorem load_of_fileMode_out (hlayers : HasLayers site.tree site.directory site.home lower upper)
    (hgiven : probeSection.lookUp "probe" "file_mode" (merged lower upper) = some (.integer n))
    (hvalid : ValidBut ("probe", "file_mode") site.environment (merged lower upper))
    (h : n.toInt < 0 ∨ 0x100000000 ≤ n.toInt) :
    ∃ value, Keyed.find? "probe" (merged lower upper) = some value ∧
      load site.tree site.directory site.home site.environment = .failed (.misshapen {
        flaw := .outOfRange n .unsigned32, path := Section.placeOf ["probe"] "file_mode" value }) := by
  have hrefuses : (Setting.of "file_mode" asUnsigned32 fun (probe : ProbeSettings) fileMode =>
      { probe with fileMode }).Refuses (.integer n) (.outOfRange n .unsigned32) :=
    Setting.of_refuses _ (asUnsigned32_of_out h)
  exact load_of_refused probe_under probeSection_keys List.mem_cons_self hlayers hvalid.fits
    (fun value hvalue => (hvalid.fits.probe value hvalue).mono (by simp [Setting.of])) hgiven hrefuses

/-- a file mode that fits in 32 bits is given, with an interval that is not zero -/
theorem gives_of_fileMode (hlayers : HasLayers site.tree site.directory site.home lower upper)
    (hgiven : probeSection.lookUp "probe" "file_mode" (merged lower upper) = some (.integer n))
    (hvalid : ValidBut ("probe", "file_mode") site.environment (merged lower upper))
    (hlow : 0 ≤ n.toInt) (hhigh : n.toInt < 0x100000000) :
    ∃ settings, Gives site lower upper settings ∧ settings.probe.fileMode = UInt32.ofNat n.toInt.toNat ∧
      settings.heartbeat.intervalSecs ≠ 0 := by
  have hordered := merged_ordered hlayers.ordered.1 hlayers.ordered.2
  have hread := asUnsigned32_of_fits hlow hhigh
  obtain ⟨-, -, -, hsame⟩ := Section.given_of_lookUp probeSection_keys hordered hgiven
  have hfits : Fits [] (merged lower upper) := hvalid.fits.complete_probe fun value hvalue =>
    Section.Fits.complete probeSection_keys List.mem_cons_self
      ((hvalid.fits.probe value hvalue).mono (by simp [Setting.of]))
      fun given hitem => hsame value given hvalue hitem ▸ Setting.of_takes _ hread
  obtain ⟨settings, hgives⟩ := gives_of_fits hlayers hfits hvalid.variablesFit
  refine ⟨settings, hgives, ?_, ?_⟩
  · have hmode := hgives.inForce.1
    unfold fileModeInForce at hmode
    rw [hgiven, Option.map_some, hread] at hmode
    exact (Option.some.inj hmode).symm
  · intro hzero
    exact hvalid.interval (by simp) (hzero ▸ hgives.inForce.2)

/-- **A file mode among valid settings** loads exactly from zero to the largest mode. One that does not fit in 32 bits
is a problem of the table, and any other is invalid. -/
theorem load_fileMode (hlayers : HasLayers site.tree site.directory site.home lower upper)
    (hgiven : probeSection.lookUp "probe" "file_mode" (merged lower upper) = some (.integer n))
    (hvalid : ValidBut ("probe", "file_mode") site.environment (merged lower upper)) :
    ((∃ settings, load site.tree site.directory site.home site.environment = .done settings) ↔
      0 ≤ n.toInt ∧ n.toInt ≤ 4095) ∧
    (n.toInt < 0 ∨ 0x100000000 ≤ n.toInt → ∃ value, Keyed.find? "probe" (merged lower upper) = some value ∧
      load site.tree site.directory site.home site.environment = .failed (.misshapen {
        flaw := .outOfRange n .unsigned32, path := Section.placeOf ["probe"] "file_mode" value })) ∧
    (4095 < n.toInt → n.toInt < 0x100000000 →
      load site.tree site.directory site.home site.environment =
        .failed (.invalid (.unusable (.fileMode (UInt32.ofNat n.toInt.toNat))))) := by
  have hout := load_of_fileMode_out hlayers hgiven hvalid
  have hgreat : 4095 < n.toInt → n.toInt < 0x100000000 →
      load site.tree site.directory site.home site.environment =
        .failed (.invalid (.unusable (.fileMode (UInt32.ofNat n.toInt.toNat)))) := by
    intro hlow hhigh
    obtain ⟨settings, hgives, hmode, hinterval⟩ := gives_of_fileMode hlayers hgiven hvalid (by omega) hhigh
    have hexceeds : settings.probe.fileMode > greatestFileMode := by
      rw [hmode]
      exact greatest_lt_ofNat hlow hhigh
    rw [hgives.load, checked_fileMode hinterval hexceeds, hmode]
    rfl
  refine ⟨⟨?_, ?_⟩, hout, hgreat⟩
  · intro hloads
    by_contra hoff
    by_cases hunsigned : n.toInt < 0 ∨ 0x100000000 ≤ n.toInt
    · obtain ⟨_, -, hfailed⟩ := hout hunsigned
      exact not_loads_of_failed hfailed hloads
    · exact not_loads_of_failed (hgreat (by omega) (by omega)) hloads
  · rintro ⟨hlow, hhigh⟩
    obtain ⟨settings, hgives, hmode, hinterval⟩ := gives_of_fileMode hlayers hgiven hvalid hlow (by omega)
    refine ⟨settings, hgives.loads hinterval ?_⟩
    rw [hmode]
    exact ofNat_le_greatest hlow hhigh

/-! ## Intervals -/

theorem asUnsigned64_of_fits (hlow : 0 ≤ n.toInt) :
    asUnsigned64 (.integer n) = .ok (UInt64.ofNat n.toInt.toNat) := if_pos hlow

theorem asUnsigned64_of_out (h : n.toInt < 0) :
    asUnsigned64 (.integer n) = .error (.outOfRange n .unsigned64) := if_neg (not_le.2 h)

theorem ofNat_ne_zero (h : 1 ≤ n.toInt) : UInt64.ofNat n.toInt.toNat ≠ 0 := by
  intro hzero
  have hsize : n.toInt.toNat < UInt64.size := by
    have hbound := n.toInt_lt
    rw [UInt64.size]
    omega
  have hvalue := UInt64.toNat_ofNat_of_lt' hsize
  rw [hzero, UInt64.toNat_zero] at hvalue
  omega

/-- an interval below zero is a problem of the table, whatever the environment says -/
theorem load_of_interval_out (hlayers : HasLayers site.tree site.directory site.home lower upper)
    (hgiven : heartbeatSection.lookUp "heartbeat" "interval_secs" (merged lower upper) = some (.integer n))
    (hvalid : ValidBut ("heartbeat", "interval_secs") site.environment (merged lower upper)) (h : n.toInt < 0) :
    ∃ value, Keyed.find? "heartbeat" (merged lower upper) = some value ∧
      load site.tree site.directory site.home site.environment = .failed (.misshapen {
        flaw := .outOfRange n .unsigned64, path := Section.placeOf ["heartbeat"] "interval_secs" value }) := by
  have hrefuses : (Setting.of "interval_secs" asUnsigned64 fun (heartbeat : HeartbeatSettings) intervalSecs =>
      { heartbeat with intervalSecs }).Refuses (.integer n) (.outOfRange n .unsigned64) :=
    Setting.of_refuses _ (asUnsigned64_of_out h)
  exact load_of_refused heartbeat_under heartbeatSection_keys List.mem_cons_self hlayers hvalid.fits
    (fun value hvalue => (hvalid.fits.heartbeat value hvalue).mono (by simp [Setting.of])) hgiven hrefuses

/-- an interval that is not below zero is given, unless the environment replaces it -/
theorem gives_of_interval (hlayers : HasLayers site.tree site.directory site.home lower upper)
    (hgiven : heartbeatSection.lookUp "heartbeat" "interval_secs" (merged lower upper) = some (.integer n))
    (hvalid : ValidBut ("heartbeat", "interval_secs") site.environment (merged lower upper))
    (hunset : site.environment "NVPROBE_HEARTBEAT_SECS" = none) (hlow : 0 ≤ n.toInt) :
    ∃ settings, Gives site lower upper settings ∧ settings.heartbeat.intervalSecs = UInt64.ofNat n.toInt.toNat ∧
      settings.probe.fileMode ≤ greatestFileMode := by
  have hordered := merged_ordered hlayers.ordered.1 hlayers.ordered.2
  have hread := asUnsigned64_of_fits hlow
  obtain ⟨-, -, -, hsame⟩ := Section.given_of_lookUp heartbeatSection_keys hordered hgiven
  have hfits : Fits [] (merged lower upper) := hvalid.fits.complete_heartbeat fun value hvalue =>
    Section.Fits.complete heartbeatSection_keys List.mem_cons_self
      ((hvalid.fits.heartbeat value hvalue).mono (by simp [Setting.of]))
      fun given hitem => hsame value given hvalue hitem ▸ Setting.of_takes _ hread
  obtain ⟨settings, hgives⟩ := gives_of_fits hlayers hfits hvalid.variablesFit
  refine ⟨settings, hgives, ?_, hvalid.fileMode (by simp) _ hgives.inForce.1⟩
  have hinterval := hgives.inForce.2
  unfold intervalInForce fromEnvironment at hinterval
  rw [hunset, hgiven, Option.map_some, hread] at hinterval
  exact (Option.some.inj hinterval).symm

/-- **An interval among valid settings**, where no variable replaces it, loads exactly from one. One below zero is a
problem of the table, and zero is invalid. -/
theorem load_interval (hlayers : HasLayers site.tree site.directory site.home lower upper)
    (hgiven : heartbeatSection.lookUp "heartbeat" "interval_secs" (merged lower upper) = some (.integer n))
    (hvalid : ValidBut ("heartbeat", "interval_secs") site.environment (merged lower upper))
    (hunset : site.environment "NVPROBE_HEARTBEAT_SECS" = none) :
    ((∃ settings, load site.tree site.directory site.home site.environment = .done settings) ↔ 1 ≤ n.toInt) ∧
    (n.toInt < 0 → ∃ value, Keyed.find? "heartbeat" (merged lower upper) = some value ∧
      load site.tree site.directory site.home site.environment = .failed (.misshapen {
        flaw := .outOfRange n .unsigned64, path := Section.placeOf ["heartbeat"] "interval_secs" value })) ∧
    (n.toInt = 0 →
      load site.tree site.directory site.home site.environment = .failed (.invalid (.unusable .zeroInterval))) := by
  have hout := load_of_interval_out hlayers hgiven hvalid
  have hgives := gives_of_interval hlayers hgiven hvalid hunset
  have hzero : n.toInt = 0 →
      load site.tree site.directory site.home site.environment = .failed (.invalid (.unusable .zeroInterval)) := by
    intro hn
    obtain ⟨settings, hgives, hinterval, -⟩ := hgives hn.ge
    rw [hn] at hinterval
    rw [hgives.load, checked_zero hinterval]
    rfl
  refine ⟨⟨?_, ?_⟩, hout, hzero⟩
  · intro hloads
    by_contra hoff
    by_cases hneg : n.toInt < 0
    · obtain ⟨_, -, hfailed⟩ := hout hneg
      exact not_loads_of_failed hfailed hloads
    · exact not_loads_of_failed (hzero (by omega)) hloads
  · intro hlow
    obtain ⟨settings, hgives, hinterval, hmode⟩ := hgives (by omega)
    refine ⟨settings, hgives.loads ?_ hmode⟩
    rw [hinterval]
    exact ofNat_ne_zero hlow

end BlockProbe.Command
