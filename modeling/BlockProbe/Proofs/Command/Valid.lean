/-
What reaches the device and the idle loop.

Settings are checked where they are loaded, and again with the request's interval in place. So whatever layer a value
comes from, a plan has permission bits only for a mode and a heartbeat that takes a second at least, and it is plans
alone that a run acts on.

- `Makes.valid`: what the check says of a plan.
- `runOn_congr`: a run meets its device at the plan it makes.
- `Stands.carries`, `Stands.created`: at any moment of a run, the worker carries out the plan that the run makes, and a
  file that was not there has the plan's mode.
- `onlyValid`: only valid settings are acted on.
-/
import BlockProbe.Proofs.Command.Again
import BlockProbe.Proofs.Command.Bounds
import BlockProbe.Proofs.Command.Interrupted

namespace BlockProbe.Command

open BlockProbe.Files
open BlockProbe.Probe (payload)
open BlockProbe.Settings
open BlockProbe.Toml

/-- a mode of permission bits only, and heartbeats a second apart at least -/
structure Plan.Valid (made : Plan) : Prop where
  mode : made.options.mode ≤ greatestFileMode
  interval : 1 ≤ made.heartbeat.intervalSecs

variable {site : Site} {arguments : List String} {made : Plan}

/-! ## Plans -/

theorem check_eq_ok {settings : Settings} (h : settings.check = .ok ()) :
    settings.heartbeat.intervalSecs ≠ 0 ∧ settings.probe.fileMode ≤ greatestFileMode := by
  unfold check at h
  split_ifs at h with hinterval hmode
  exact ⟨hinterval, UInt32.not_lt.1 hmode⟩

/-- **A plan is valid.** -/
theorem Makes.valid (h : Makes site arguments made) : made.Valid := by
  obtain ⟨request, settings, -, -, hplan⟩ := h
  obtain ⟨path, -, hcheck, rfl⟩ := plan_eq_ok hplan
  obtain ⟨hinterval, hmode⟩ := check_eq_ok hcheck
  rw [withInterval_probe] at hmode
  refine ⟨hmode, ?_⟩
  have hpositive : 0 < (withInterval settings request.interval).heartbeat.intervalSecs.toNat :=
    Nat.pos_of_ne_zero fun hzero => hinterval (UInt64.toNat_inj.1 hzero)
  exact UInt64.le_iff_toNat_le.2 hpositive

/-- a plan has the mode that is configured -/
theorem Makes.mode (h : Makes site arguments made) :
    ∃ settings, load site.tree site.directory site.home site.environment = .done settings ∧
      made.options.mode = settings.probe.fileMode := by
  obtain ⟨request, settings, -, hload, hplan⟩ := h
  obtain ⟨path, -, -, rfl⟩ := plan_eq_ok hplan
  exact ⟨settings, hload, rfl⟩

/-! ## The device -/

/-- **A run meets its device at the plan it makes**, and nowhere else. -/
theorem runOn_congr {device other : Device}
    (h : ∀ made, Makes site arguments made →
      device.target made = other.target made ∧ device.after made = other.after made) :
    runOn site device arguments = runOn site other arguments := by
  by_cases hmakes : ∃ made, Makes site arguments made
  · obtain ⟨made, hmade⟩ := hmakes
    obtain ⟨htarget, hafter⟩ := h made hmade
    obtain ⟨request, settings, hparse, hload, hplan⟩ := hmade
    have hloaded : load site.tree site.directory site.home site.environment = .ofExcept (.ok settings) := hload
    rw [runOn_of_load device hparse hloaded, runOn_of_load other hparse hloaded, proceed_of_plan hplan,
      proceed_of_plan hplan, htarget, hafter]
  · obtain ⟨transcript, -, -, hrun⟩ := runOn_of_not_makes fun made hmade => hmakes ⟨made, hmade⟩
    rw [hrun, hrun]

theorem makes_of_idle {device : Device} (h : (runOn site device arguments).outcome = .waiting .idle) :
    ∃ made, Makes site arguments made := by
  by_contra hmakes
  obtain ⟨transcript, -, hidle, hrun⟩ := runOn_of_not_makes fun made hmade => hmakes ⟨made, hmade⟩
  rw [hrun] at h
  exact hidle h

/-! ## Modes -/

/-- of a mode of permission bits only nothing is cut off -/
theorem masked_of_le {mode : UInt32} (h : mode ≤ greatestFileMode) (caller : Caller) :
    caller.masked mode = mode &&& ~~~caller.mask := by
  have hbits : mode &&& 0o7777 = mode := by
    apply UInt32.toNat_inj.1
    have hgreatest : greatestFileMode.toNat = 2 ^ 12 - 1 := rfl
    have hmode : mode.toNat < 2 ^ 12 := by
      have hle := UInt32.le_iff_toNat_le.1 h
      omega
    rw [UInt32.toNat_and]
    exact Nat.and_two_pow_sub_one_of_lt_two_pow hmode
  unfold Caller.masked
  rw [hbits]

/-- the mode of a file that was created with a configured mode and holds something or nothing: of what is configured,
the process masks its bits and nothing else is cut off, but for the set-id bits that a process may not keep -/
structure Created (caller : Caller) (location : Location) (configured : UInt32) (content : List UInt8)
    (mode : UInt32) : Prop where
  whole : caller.masked configured = configured &&& ~~~caller.mask
  created : CreatedAs caller location configured content mode

theorem Makes.created (h : Makes site arguments made) (caller : Caller) (location : Location) (content : List UInt8) :
    ∃ settings, load site.tree site.directory site.home site.environment = .done settings ∧
      Created caller location settings.probe.fileMode content
        (caller.writtenMode location (caller.createdMode location made.options.mode) content) := by
  obtain ⟨settings, hload, hmode⟩ := h.mode
  exact ⟨settings, hload, hmode ▸ masked_of_le h.valid.mode caller, hmode ▸ createdAs caller location _ content⟩

end BlockProbe.Command

namespace BlockProbe.Command.Shutdown

open BlockProbe.Files
open BlockProbe.Probe (payload)
open BlockProbe.Settings

variable {site : Site} {arguments : List String} {made : Plan} {flow : Flow} {worker : Worker} {said : List Line}
  {tree : Tree}

/-- the plan whose round trip a worker makes -/
def Worker.plan? : Worker → Option Plan
  | .starting plan => some plan
  | .writing plan _ _ => some plan
  | .written plan => some plan
  | _ => none

/-- **A worker carries out the plan that the run makes**, and no other. -/
theorem Stands.carries (h : Stands site arguments flow worker said tree) (hplan : worker.plan? = some made) :
    Makes site arguments made := by
  induction h with
  | loading _ hreading => cases hreading <;> cases hplan
  | probing hmade htrip =>
    cases htrip with
    | failed _ => cases hplan
    | read _ => cases hplan
    | _ => cases hplan; exact hmade
  | left _ _ _ ih => exact ih hplan
  | _ => cases hplan

theorem Stands.idles (h : Stands site arguments (.idle made) worker said tree) : Makes site arguments made := by
  cases h with
  | idle hmade _ => exact hmade

theorem tree_cases_of_makes (hmade : Makes site arguments made) :
    treeAfter site made = site.tree ∨ ∃ made', Makes site arguments made' ∧ Holds site made' (treeAfter site made) :=
  (treeAfter_cases site made).imp_right fun hholds => ⟨made, hmade, hholds⟩

/-- the files are as they were, or the one that the run's plan opens is written -/
theorem Stands.tree_cases (h : Stands site arguments flow worker said tree) :
    tree = site.tree ∨ ∃ made, Makes site arguments made ∧ Holds site made tree := by
  induction h with
  | probing hmade htrip => exact htrip.tree_cases.imp_right fun hholds => ⟨_, hmade, hholds⟩
  | judging hmade _ => exact tree_cases_of_makes hmade
  | idle hmade _ => exact tree_cases_of_makes hmade
  | left _ _ _ ih => exact ih
  | ended _ hends =>
    rw [← hends.tree]
    by_cases hmakes : ∃ made, Makes site arguments made
    · obtain ⟨made, hmade⟩ := hmakes
      rw [run_tree_of_makes hmade]
      exact tree_cases_of_makes hmade
    · exact .inl (run_tree_of_not_makes fun made hmade => hmakes ⟨made, hmade⟩)
  | _ => exact .inl rfl

/-- **A file that was not there** has the mode that its run creates it with. -/
theorem Stands.created (h : Stands site arguments flow worker said tree) {location : Location} {mode : UInt32}
    {content : List UInt8} (hfree : site.tree.get? location = none)
    (hfile : tree.get? location = some (.file mode content)) :
    ∃ settings, load site.tree site.directory site.home site.environment = .done settings ∧
      Created site.tree.caller location settings.probe.fileMode content mode := by
  rcases h.tree_cases with rfl | ⟨made, hmade, place, now, count, hopening, rfl⟩
  · rw [hfree] at hfile
    cases hfile
  · obtain ⟨_, _, _, hroot⟩ := Tree.opening_file hopening
    rw [holding, Tree.get?_set _ hroot] at hfile
    split_ifs at hfile with hplace
    · subst hplace
      cases hfile
      obtain ⟨-, rfl⟩ := Tree.mayFill_of_opening hopening
      rw [Tree.openedMode_of_free hfree]
      exact hmade.created site.tree.caller location _
    · rw [hfree] at hfile
      cases hfile

end BlockProbe.Command.Shutdown

namespace BlockProbe.Command

open BlockProbe.Files
open BlockProbe.Probe (payload)
open BlockProbe.Settings
open BlockProbe.Toml

/-- which settings reach the device and the idle loop, and which integers are let through -/
structure OnlyValid (site : Site) (arguments : List String) : Prop where
  /-- what a device would do with other plans is never seen -/
  device : ∀ device other : Device,
    (∀ made : Plan, made.Valid → device.target made = other.target made ∧ device.after made = other.after made) →
    runOn site device arguments = runOn site other arguments
  idle : ∀ device, (runOn site device arguments).outcome = .waiting .idle →
    ∃ made, Makes site arguments made ∧ 1 ≤ made.heartbeat.intervalSecs
  carries : ∀ state, Shutdown.Reached site arguments state → ∀ made, state.worker.plan? = some made →
    made.options.mode ≤ greatestFileMode
  idles : ∀ state, Shutdown.Reached site arguments state → ∀ made, state.flow = .idle made →
    1 ≤ made.heartbeat.intervalSecs
  /-- at any moment, however signals are delivered -/
  created : ∀ state, Shutdown.Reached site arguments state → ∀ location mode content,
    site.tree.get? location = none → state.tree.get? location = some (.file mode content) →
    ∃ settings, load site.tree site.directory site.home site.environment = .done settings ∧
      Created site.tree.caller location settings.probe.fileMode content mode
  /-- once the run is over, if the process may create its target -/
  written : ∀ location, Targets site arguments location → site.tree.get? location = none →
    site.tree.caller.adds location.dropLast = true →
    ∃ settings mode, load site.tree site.directory site.home site.environment = .done settings ∧
      (run site arguments).tree.get? location = some (.file mode payload) ∧
      Created site.tree.caller location settings.probe.fileMode payload mode
  fileMode : ∀ lower upper (n : Int64), HasLayers site.tree site.directory site.home lower upper →
    probeSection.lookUp "probe" "file_mode" (merged lower upper) = some (.integer n) →
    ValidBut ("probe", "file_mode") site.environment (merged lower upper) →
    ((∃ settings, load site.tree site.directory site.home site.environment = .done settings) ↔
      0 ≤ n.toInt ∧ n.toInt ≤ 4095) ∧
    (n.toInt < 0 ∨ 0x100000000 ≤ n.toInt → ∃ value, Keyed.find? "probe" (merged lower upper) = some value ∧
      load site.tree site.directory site.home site.environment = .failed (.misshapen {
        flaw := .outOfRange n .unsigned32, path := Section.placeOf ["probe"] "file_mode" value })) ∧
    (4095 < n.toInt → n.toInt < 0x100000000 →
      load site.tree site.directory site.home site.environment =
        .failed (.invalid (.unusable (.fileMode (UInt32.ofNat n.toInt.toNat)))))
  interval : ∀ lower upper (n : Int64), HasLayers site.tree site.directory site.home lower upper →
    heartbeatSection.lookUp "heartbeat" "interval_secs" (merged lower upper) = some (.integer n) →
    ValidBut ("heartbeat", "interval_secs") site.environment (merged lower upper) →
    site.environment "NVPROBE_HEARTBEAT_SECS" = none →
    ((∃ settings, load site.tree site.directory site.home site.environment = .done settings) ↔ 1 ≤ n.toInt) ∧
    (n.toInt < 0 → ∃ value, Keyed.find? "heartbeat" (merged lower upper) = some value ∧
      load site.tree site.directory site.home site.environment = .failed (.misshapen {
        flaw := .outOfRange n .unsigned64, path := Section.placeOf ["heartbeat"] "interval_secs" value })) ∧
    (n.toInt = 0 →
      load site.tree site.directory site.home site.environment = .failed (.invalid (.unusable .zeroInterval)))

/-- **Only valid settings reach the device and the idle loop**, whatever layer each of them comes from. Every plan that
is carried out has a mode of permission bits only, and every run that idles an interval of a second at least. A file
that a run creates has the configured mode, less what the process masks, and less the set-id bits that it may not keep.
Of integers given as a mode or an interval among valid settings, those in range load, those that do not fit
where they are kept are a problem of the table, and the others are invalid. -/
theorem onlyValid (site : Site) (arguments : List String) : OnlyValid site arguments where
  device _ _ h := runOn_congr fun made hmade => h made hmade.valid
  idle _ h := by
    obtain ⟨made, hmade⟩ := makes_of_idle h
    exact ⟨made, hmade, hmade.valid.interval⟩
  carries _ h _ hplan := (h.stood.carries hplan).valid.mode
  idles state h made hflow := by
    have hstands : Shutdown.Stands site arguments (.idle made) state.worker state.said state.tree := hflow ▸ h.stood
    exact hstands.idles.valid.interval
  created _ h _ _ _ hfree hfile := h.stood.created hfree hfile
  written location htargets hfree hadds := by
    obtain ⟨made, hmade, hnames⟩ := targets_iff_makes.1 htargets
    obtain ⟨settings, hload, hcreated⟩ := hmade.created site.tree.caller location payload
    have hfill : site.tree.mayFill location = true := (Tree.mayFill_of_free hfree).trans hadds
    refine ⟨settings, _, hload, ?_, hcreated⟩
    rw [run_tree_of_makes hmade]
    exact Tree.created_of_names hnames hfree hfill made.options.mode payload
  fileMode _ _ _ hlayers hgiven hvalid := load_fileMode hlayers hgiven hvalid
  interval _ _ _ hlayers hgiven hvalid hunset := load_interval hlayers hgiven hvalid hunset

/-! Project files that give a file mode: the largest there is, and the one behind it. -/

def modeTable (mode : Int64) : Table := [("probe", .table [("file_mode", .integer mode)])]

def greatestText : String := "probe.file_mode=4095"

def beyondText : String := "probe.file_mode=4096"

theorem assemble_mode (mode : Int64) :
    assemble [.assignment ["probe", "file_mode"] (.integer mode)] = some (modeTable mode) := by
  simp [assemble, Document.add, Document.empty, within, assign, define, Keyed.find?, Keyed.set, Keyed.put,
    entriesToTable, keyedToValue, Entry.toValue, settledEntries, settledEntry, Value.settled, standsForMoment,
    momentKey, modeTable]

theorem greatest_layers : HasLayers (siteHolding greatestText).tree (siteHolding greatestText).directory
    (siteHolding greatestText).home none (some (modeTable 4095)) :=
  siteHolding_layers (readTable_of_statements (by decide) (by cbv) (assemble_mode 4095))

theorem beyond_layers : HasLayers (siteHolding beyondText).tree (siteHolding beyondText).directory
    (siteHolding beyondText).home none (some (modeTable 4096)) :=
  siteHolding_layers (readTable_of_statements (by decide) (by cbv) (assemble_mode 4096))

/-- the table gives nothing but the mode -/
theorem modeTable_validBut (mode : Int64) :
    ValidBut ("probe", "file_mode") (fun _ => none) (modeTable mode) where
  fits := fits_single _ _ _
  variablesFit _ _ _ hset := by cases hset
  interval _ := by
    have hstandard : intervalInForce (fun _ => none) (modeTable mode) = some 10 := rfl
    rw [hstandard]
    decide
  fileMode hother := (hother rfl).elim

/-- a table that gives nothing but an interval -/
theorem intervalTable_validBut (secs : Int64) :
    ValidBut ("heartbeat", "interval_secs") (fun _ => none) (intervalTable secs) where
  fits := fits_single _ _ _
  variablesFit _ _ _ hset := by cases hset
  interval hother := (hother rfl).elim
  fileMode _ mode hmode := by
    cases (hmode : some defaultFileMode = some mode)
    decide

theorem zero_layers : HasLayers (siteHolding zeroText).tree (siteHolding zeroText).directory
    (siteHolding zeroText).home none (some (intervalTable 0)) :=
  siteHolding_layers (readTable_of_statements (by decide) (by cbv) (assemble_interval 0))

/-- the sample's runs: a mode behind the largest is invalid and so is an interval of zero; a file that is created has
the mode that is configured, and the worker is given a mode of permission bits only -/
theorem beyond_onlyValid :
    (HasLayers (siteHolding beyondText).tree (siteHolding beyondText).directory (siteHolding beyondText).home none
        (some (modeTable 4096)) ∧
      probeSection.lookUp "probe" "file_mode" (merged none (some (modeTable 4096))) = some (.integer 4096) ∧
      ValidBut ("probe", "file_mode") (siteHolding beyondText).environment (merged none (some (modeTable 4096)))) ∧
    load (siteHolding beyondText).tree (siteHolding beyondText).directory (siteHolding beyondText).home
      (siteHolding beyondText).environment = .failed (.invalid (.unusable (.fileMode 4096))) ∧
    (HasLayers (siteHolding zeroText).tree (siteHolding zeroText).directory (siteHolding zeroText).home none
        (some (intervalTable 0)) ∧
      heartbeatSection.lookUp "heartbeat" "interval_secs" (merged none (some (intervalTable 0))) = some (.integer 0) ∧
      ValidBut ("heartbeat", "interval_secs") (siteHolding zeroText).environment
        (merged none (some (intervalTable 0)))) ∧
    load (siteHolding zeroText).tree (siteHolding zeroText).directory (siteHolding zeroText).home
      (siteHolding zeroText).environment = .failed (.invalid (.unusable .zeroInterval)) ∧
    (Targets bareSite ["t", "--once"] ["t"] ∧ bareSite.tree.get? ["t"] = none ∧
      (run bareSite ["t", "--once"]).tree.get? ["t"] = some (.file 0o644 payload)) ∧
    (Shutdown.Reached bareSite ["t", "--once"] (Shutdown.steps bareSite ["t", "--once"] Shutdown.brokenOff) ∧
      (Shutdown.steps bareSite ["t", "--once"] Shutdown.brokenOff).worker.plan? = some barePlan ∧
      barePlan.options.mode ≤ greatestFileMode) := by
  have hgiven : probeSection.lookUp "probe" "file_mode" (merged none (some (modeTable 4096))) =
      some (.integer 4096) := rfl
  have hvalid : ValidBut ("probe", "file_mode") (siteHolding beyondText).environment
      (merged none (some (modeTable 4096))) := modeTable_validBut 4096
  have hinvalid := ((onlyValid (siteHolding beyondText) []).fileMode none _ _ beyond_layers hgiven hvalid).2.2
    (by decide) (by decide)
  have hzeroGiven : heartbeatSection.lookUp "heartbeat" "interval_secs" (merged none (some (intervalTable 0))) =
      some (.integer 0) := rfl
  have hzeroValid : ValidBut ("heartbeat", "interval_secs") (siteHolding zeroText).environment
      (merged none (some (intervalTable 0))) := intervalTable_validBut 0
  have hzero := ((onlyValid (siteHolding zeroText) []).interval none _ _ zero_layers hzeroGiven hzeroValid rfl).2.2
    (by decide)
  have hfree : bareSite.tree.get? ["t"] = none := rfl
  obtain ⟨settings, mode, hload, hfile, hcreated⟩ :=
    (onlyValid bareSite ["t", "--once"]).written ["t"] Shutdown.bareSite_targets hfree rfl
  have hdefault : settings = Settings.default := by
    rw [bareSite_loads] at hload
    cases hload
    rfl
  have hmode : mode = 0o644 := by
    rw [hdefault] at hcreated
    exact hcreated.created.plain (by decide)
  have hreached : Shutdown.Reached bareSite ["t", "--once"]
      (Shutdown.steps bareSite ["t", "--once"] Shutdown.brokenOff) := ⟨_, rfl⟩
  have hplan : (Shutdown.steps bareSite ["t", "--once"] Shutdown.brokenOff).worker.plan? = some barePlan := by
    rw [Shutdown.brokenOff_steps]
    rfl
  have hcarries := (onlyValid bareSite ["t", "--once"]).carries _ hreached barePlan hplan
  exact ⟨⟨beyond_layers, hgiven, hvalid⟩, hinvalid, ⟨zero_layers, hzeroGiven, hzeroValid⟩, hzero,
    ⟨Shutdown.bareSite_targets, hfree, hmode ▸ hfile⟩, hreached, hplan, hcarries⟩

theorem greatest_loads : load (siteHolding greatestText).tree (siteHolding greatestText).directory
    (siteHolding greatestText).home (siteHolding greatestText).environment = .done { probe.fileMode := 0o7777 } := by
  have hfinish : (ofLayers [none, some (modeTable 4095)] >>= finish fun _ => none) =
      .ok { probe.fileMode := 0o7777 } := by cbv
  rw [load_of_layers greatest_layers]
  exact congrArg Attempt.ofExcept hfinish

def greatestPlan : Plan := { barePlan with options := { mode := 0o7777 } }

theorem greatest_makes : Makes (siteHolding greatestText) ["t", "--once"] greatestPlan :=
  ⟨{ path := some "t", once := true }, { probe.fileMode := 0o7777 }, by cbv, greatest_loads, by cbv⟩

/-- a file created with the largest mode loses its set-id bits when a process that may not keep them writes the payload
to it -/
theorem greatest_mode_taken :
    load (siteHolding greatestText).tree (siteHolding greatestText).directory (siteHolding greatestText).home
      (siteHolding greatestText).environment = .done { probe.fileMode := 0o7777 } ∧
    (siteHolding greatestText).tree.get? ["work", "t"] = none ∧
    (siteHolding greatestText).tree.caller.mask = 0o022 ∧
    (siteHolding greatestText).tree.caller.keepsSetIds = false ∧
    (run (siteHolding greatestText) ["t", "--once"]).tree.get? ["work", "t"] = some (.file 0o1755 payload) ∧
    (0o1755 : UInt32) ≠ 0o7777 &&& ~~~0o022 := by
  have hmode : (siteHolding greatestText).tree.caller.writtenMode ["work", "t"]
      ((siteHolding greatestText).tree.caller.createdMode ["work", "t"] greatestPlan.options.mode) payload =
        0o1755 := by cbv
  have hnames : Names (siteHolding greatestText).tree (siteHolding greatestText).directory greatestPlan.path
      ["work", "t"] := siteHolding_names greatestText
  refine ⟨greatest_loads, rfl, rfl, rfl, ?_, by decide⟩
  rw [run_tree_of_makes greatest_makes]
  exact hmode ▸ Tree.created_of_names hnames rfl rfl greatestPlan.options.mode payload

end BlockProbe.Command
