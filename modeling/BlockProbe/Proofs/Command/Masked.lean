/-
What an interval on the command line hides.

Two runs are compared whose sites differ in nothing but the interval that their files and their environment give, under
a request that brings an interval of its own. The settings are checked before the request's interval replaces theirs,
so the value that is replaced can still be seen: it is refused where it is zero.

- `proceed_seenAlike`: runs that plan alike and log alike are seen alike.
- `seenAlike_iff_zero`: a replaced interval is seen exactly where one of the two is zero and the other is not.
-/
import BlockProbe.Proofs.Command.Plan
import BlockProbe.Proofs.Probe.OnTree
import BlockProbe.Proofs.Settings.Interval
import BlockProbe.Proofs.Toml.Read
import Mathlib

namespace BlockProbe.Command

open BlockProbe.Files
open BlockProbe.Log (Filter)
open BlockProbe.Probe
open BlockProbe.Settings
open BlockProbe.Toml (Table)

/-- two sites that are the same but for what files hold and for the interval's variable -/
structure SitesAlike (first second : Site) : Prop where
  tree : first.tree.SameButContents second.tree
  directory : first.directory = second.directory
  environment : SameVariables first.environment second.environment

/-- The files of a site can be parsed, the tables in them decode and the variables can be read. They give these
settings, which need not pass the check. -/
structure Gives (site : Site) (lower upper : Option Table) (settings : Settings) : Prop where
  layers : HasLayers site.tree site.directory site.home lower upper
  settings : ∃ before, ofLayers [lower, upper] = .ok before ∧
    applyOverrides site.environment before = (settings, .ok ())

/-- two runs that end alike, print alike and leave the files alike: everywhere the same, or as they were -/
structure SeenAlike (before beforeOther : Tree) (first second : Transcript) : Prop where
  status : first.outcome.exitStatus? = second.outcome.exitStatus?
  output : first.output = second.output
  complaints : first.complaints = second.complaints
  log : first.log = second.log
  files : Tree.SameChange before beforeOther first.tree second.tree

/-! ## Carrying out one plan at two sites -/

/-- round trips on trees that differ in contents alone come to the same -/
theorem trip_alike {first second : Site} (h : SitesAlike first second) (made : Plan) :
    trip made (targetAt first made) = trip made (targetAt second made) := by
  have hsink : (targetAt first made).sink = (targetAt second made).sink := by
    unfold targetAt targetOf
    simp only [h.directory, sinkOf_sameButContents h.tree]
  unfold trip
  rw [← hsink]
  cases hwrite : writePayload made.path (targetAt first made).sink payload made.options with
  | failed error => rfl
  | waits => rfl
  | done _ =>
    have hsource : (targetAt first made).source = (targetAt second made).source := by
      unfold targetAt targetOf
      simp only [← h.directory]
      exact sourceOf_sameButContents h.tree hwrite payload.length
    rw [hsource]

/-- **Runs that plan alike and log alike are seen alike.** -/
theorem proceed_seenAlike {first second : Site} (h : SitesAlike first second) {request : Request}
    {loaded other : Except LoadError Settings} (hplan : plan request loaded = plan request other)
    (hlevel : logLevel request loaded = logLevel request other) :
    SeenAlike first.tree second.tree (proceed first (filesOf first) request loaded)
      (proceed second (filesOf second) request other) := by
  have hfilter : first.environment "RUST_LOG" = second.environment "RUST_LOG" := h.environment _ (by decide)
  cases hmade : plan request other with
  | error failure =>
    rw [proceed_of_failure (hplan.trans hmade), proceed_of_failure hmade, hfilter, hlevel]
    cases failure <;> exact ⟨rfl, rfl, rfl, rfl, Tree.sameChange_refl _ _⟩
  | ok made =>
    have htrip : trip made ((filesOf first).target made) = trip made ((filesOf second).target made) := trip_alike h made
    rw [proceed_of_plan (hplan.trans hmade), proceed_of_plan hmade, hfilter, hlevel,
      carryOut_congr htrip _ _ ((filesOf second).after made)]
    refine ⟨rfl, rfl, rfl, rfl, ?_⟩
    rw [carryOut_tree]
    show Tree.SameChange first.tree second.tree (treeAfter first made) (treeAfter second made)
    unfold treeAfter
    rw [h.directory]
    exact Tree.sameChange_afterWriting h.tree _ _ _ _

/-! ## Settings that pass or not -/

/-- settings that are given, once they are checked -/
def checked (settings : Settings) : Except LoadError Settings :=
  match settings.check with
  | .error reason => .error (.invalid (.unusable reason))
  | .ok () => .ok settings

theorem Gives.load {site : Site} {lower upper : Option Table} {settings : Settings}
    (h : Gives site lower upper settings) :
    load site.tree site.directory site.home site.environment = .ofExcept (checked settings) := by
  obtain ⟨before, hdecoded, htaken⟩ := h.settings
  have hfinish : finish site.environment before = checked settings := by
    unfold finish checked
    cases hcheck : settings.check with
    | error reason => simp only [htaken, hcheck]
    | ok _ => simp only [htaken, hcheck]
  rw [load_of_layers h.layers, hdecoded]
  exact congrArg Attempt.ofExcept hfinish

theorem Gives.sameButInterval {first second : Site} (h : SitesAlike first second)
    {lower upper lowerOther upperOther : Option Table} {settings other : Settings}
    (hfirst : Gives first lower upper settings) (hsecond : Gives second lowerOther upperOther other)
    (hlower : TablesSameButInterval (tableOf lower) (tableOf lowerOther))
    (hupper : TablesSameButInterval (tableOf upper) (tableOf upperOther)) : SettingsSameButInterval settings other := by
  obtain ⟨before, hdecoded, htaken⟩ := hfirst.settings
  obtain ⟨beforeOther, hdecodedOther, htakenOther⟩ := hsecond.settings
  obtain ⟨hlowerOrdered, hupperOrdered⟩ := hfirst.layers.ordered
  obtain ⟨hlowerOther, hupperOther⟩ := hsecond.layers.ordered
  rw [ofLayers_eq] at hdecoded hdecodedOther
  have hmerged := sameButInterval_merged hlowerOrdered hlowerOther hupperOrdered hupperOther hlower hupper
  have hbefore := decode_sameButInterval (merged_ordered hlowerOrdered hupperOrdered)
    (merged_ordered hlowerOther hupperOther) hmerged (mapError_eq_ok.1 hdecoded) (mapError_eq_ok.1 hdecodedOther)
  exact overrides_sameButInterval h.environment hbefore htaken htakenOther

theorem withInterval_eq {settings other : Settings} (h : SettingsSameButInterval settings other) (secs : UInt64) :
    withInterval settings (some secs) = withInterval other (some secs) := by
  obtain ⟨hprobe, hmessage, hlog⟩ := h
  simp only [withInterval, hprobe, hmessage, hlog]

theorem plan_eq_of_withInterval {request : Request} {settings other : Settings}
    (h : withInterval settings request.interval = withInterval other request.interval) :
    plan request (.ok settings) = plan request (.ok other) := by
  unfold plan
  simp only [h]

/-- settings whose intervals pass both or neither are checked alike -/
theorem checked_alike {settings other : Settings} (h : SettingsSameButInterval settings other)
    (hzero : settings.heartbeat.intervalSecs = 0 ↔ other.heartbeat.intervalSecs = 0) :
    checked settings = checked other ∨ checked settings = .ok settings ∧ checked other = .ok other := by
  have hmode : settings.probe.fileMode = other.probe.fileMode := by rw [h.probe]
  unfold checked check
  rw [hmode]
  by_cases hfirst : settings.heartbeat.intervalSecs = 0
  · rw [if_pos hfirst, if_pos (hzero.1 hfirst)]
    exact .inl rfl
  · rw [if_neg hfirst, if_neg fun hsecond => hfirst (hzero.2 hsecond)]
    split_ifs
    · exact .inl rfl
    · exact .inr ⟨rfl, rfl⟩

/-! ## A zero that is replaced -/

theorem checked_zero {settings : Settings} (h : settings.heartbeat.intervalSecs = 0) :
    checked settings = .error (.invalid (.unusable .zeroInterval)) := by
  unfold checked check
  rw [if_pos h]

theorem checked_fileMode {settings : Settings} (h : settings.heartbeat.intervalSecs ≠ 0)
    (hmode : settings.probe.fileMode > greatestFileMode) :
    checked settings = .error (.invalid (.unusable (.fileMode settings.probe.fileMode))) := by
  unfold checked check
  rw [if_neg h, if_pos hmode]

theorem checked_passed {settings : Settings} (h : settings.heartbeat.intervalSecs ≠ 0)
    (hmode : ¬ settings.probe.fileMode > greatestFileMode) : checked settings = .ok settings := by
  unfold checked check
  rw [if_neg h, if_neg hmode]

theorem check_withInterval {settings : Settings} {secs : UInt64} (hsecs : secs ≠ 0)
    (hmode : ¬ settings.probe.fileMode > greatestFileMode) :
    (withInterval settings (some secs)).check = .ok () := by
  unfold check
  rw [withInterval_interval, withInterval_probe, Option.getD_some, if_neg hsecs, if_neg hmode]

/-- a failure takes nothing back of what was printed -/
theorem fail_output (transcript : Transcript) (failure : Failure) :
    ∃ more, (transcript.fail failure).output = transcript.output ++ more := by
  cases failure with
  | usage => exact ⟨usageLine ++ "\n", String.append_assoc⟩
  | _ => exact ⟨"", String.append_empty.symm⟩

/-- what is printed of a plan begins with the line that announces the target -/
theorem carryOut_output (made : Plan) (target : Target) (filter : Filter) (tree : Tree) :
    ∃ more, (carryOut made target filter tree).output = writingLine made ++ more := by
  unfold carryOut
  obtain ⟨tripRecords, attempt⟩ := trip made target
  cases attempt with
  | waits => exact ⟨"", String.append_empty.symm⟩
  | failed failure => exact fail_output _ failure
  | done read =>
    dsimp only
    obtain ⟨verdictRecords, verdict⟩ := judge made read
    cases verdict with
    | error failure =>
      dsimp only
      generalize hjudged : Transcript.mk (writingLine made ++ readLine read) [] _ filter tree .finished = judged
      obtain ⟨more, hmore⟩ := fail_output judged failure
      refine ⟨readLine read ++ more, ?_⟩
      rw [hmore, ← hjudged, String.append_assoc]
    | ok _ =>
      cases made.once with
      | true => exact ⟨readLine read, rfl⟩
      | false => exact ⟨readLine read ++ made.heartbeat.message ++ "\n", by simp [String.append_assoc]⟩

theorem writingLine_ne (made : Plan) (more : String) : writingLine made ++ more ≠ "" := by
  intro h
  have hline := (String.append_eq_empty_iff.1 h).1
  have hstart := (String.append_eq_empty_iff.1 (String.append_eq_empty_iff.1 hline).1).1
  exact absurd hstart (by decide)

theorem fail_complaints (transcript : Transcript) (error : LoadError) :
    (transcript.fail (.settings error)).complaints =
      transcript.complaints ++ ["Error: " ++ (Failure.settings error).message] := rfl

theorem unusable_message (reason : Unusable) :
    (Failure.settings (.invalid (.unusable reason))).message = "invalid configuration: " ++ reason.message := rfl

/-- the two reasons for which settings are refused are told apart by their first letter -/
theorem zeroInterval_message_ne (mode : UInt32) : Unusable.zeroInterval.message ≠ (Unusable.fileMode mode).message := by
  have hmessage : (Unusable.fileMode mode).message = "probe.file_mode out of range: " ++ octal mode.toNat := rfl
  have hopening : "probe.file_mode out of range: ".toList = 'p' :: "robe.file_mode out of range: ".toList := by decide
  have hmode : (Unusable.fileMode mode).message.toList.head? = some 'p' := by
    rw [hmessage, String.toList_append, hopening, List.cons_append, List.head?_cons]
  have hzero : Unusable.zeroInterval.message.toList.head? = some 'h' := by decide
  intro h
  rw [h, hmode] at hzero
  exact absurd hzero (by decide)

/-- a run that is refused for its interval is not seen like one that is not -/
theorem not_seenAlike_of_zero {first second : Site} {request : Request} (hpath : request.path ≠ none) {secs : UInt64}
    (hinterval : request.interval = some secs) (hsecs : secs ≠ 0) {settings other : Settings}
    (hzero : settings.heartbeat.intervalSecs = 0) (hother : other.heartbeat.intervalSecs ≠ 0)
    (houtput : (proceed first (filesOf first) request (checked settings)).output =
      (proceed second (filesOf second) request (checked other)).output)
    (hcomplaints : (proceed first (filesOf first) request (checked settings)).complaints =
      (proceed second (filesOf second) request (checked other)).complaints) : False := by
  rw [checked_zero hzero, proceed_of_failure (plan_of_error hpath _)] at houtput hcomplaints
  by_cases hmode : other.probe.fileMode > greatestFileMode
  · rw [checked_fileMode hother hmode, proceed_of_failure (plan_of_error hpath _)] at hcomplaints
    rw [fail_complaints, fail_complaints, List.nil_append, List.nil_append, List.singleton_inj,
      String.append_right_inj, unusable_message, unusable_message, String.append_right_inj] at hcomplaints
    exact zeroInterval_message_ne _ hcomplaints
  · have hchecked := checked_passed hother hmode
    have hpass : (withInterval other request.interval).check = .ok () := by
      rw [hinterval]
      exact check_withInterval hsecs hmode
    obtain ⟨made, hplan⟩ := plan_of_passed hpath hpass
    rw [hchecked, proceed_of_plan hplan] at houtput
    obtain ⟨more, hmore⟩ := carryOut_output made ((filesOf second).target made)
      (Filter.inForce (second.environment "RUST_LOG") (logLevel request (.ok other))) ((filesOf second).after made)
    rw [hmore] at houtput
    exact writingLine_ne made more houtput.symm

/-- **What a replaced interval can do.** At two sites that are the same but for the interval that their files and their
environment give, a request that brings an interval of its own is carried out alike exactly if the interval that it
replaces is zero at both sites or at neither. -/
theorem seenAlike_iff_zero {first second : Site} (h : SitesAlike first second)
    {lower upper lowerOther upperOther : Option Table}
    (hlower : TablesSameButInterval (tableOf lower) (tableOf lowerOther))
    (hupper : TablesSameButInterval (tableOf upper) (tableOf upperOther)) {settings other : Settings}
    (hfirst : Gives first lower upper settings) (hsecond : Gives second lowerOther upperOther other)
    {arguments : List String} {request : Request} (hparse : parse arguments = .ok request)
    (hpath : request.path ≠ none) {secs : UInt64} (hinterval : request.interval = some secs) (hsecs : secs ≠ 0) :
    SeenAlike first.tree second.tree (run first arguments) (run second arguments) ↔
      (settings.heartbeat.intervalSecs = 0 ↔ other.heartbeat.intervalSecs = 0) := by
  have hsame := hfirst.sameButInterval h hsecond hlower hupper
  have hrun : run first arguments = proceed first (filesOf first) request (checked settings) :=
    runOn_of_load _ hparse hfirst.load
  have hrunOther : run second arguments = proceed second (filesOf second) request (checked other) :=
    runOn_of_load _ hparse hsecond.load
  rw [hrun, hrunOther]
  constructor
  · intro hseen
    by_contra hdiffer
    by_cases hzero : settings.heartbeat.intervalSecs = 0
    · have hother : other.heartbeat.intervalSecs ≠ 0 := fun hother => hdiffer ⟨fun _ => hother, fun _ => hzero⟩
      exact not_seenAlike_of_zero hpath hinterval hsecs hzero hother hseen.output hseen.complaints
    · have hother : other.heartbeat.intervalSecs = 0 := by
        by_contra hother
        exact hdiffer ⟨fun h => (hzero h).elim, fun h => (hother h).elim⟩
      exact not_seenAlike_of_zero hpath hinterval hsecs hother hzero hseen.output.symm hseen.complaints.symm
  · intro hzero
    rcases checked_alike hsame hzero with heq | ⟨hok, hokOther⟩
    · rw [heq]
      exact proceed_seenAlike h rfl rfl
    · rw [hok, hokOther]
      refine proceed_seenAlike h (plan_eq_of_withInterval ?_) ?_
      · rw [hinterval]
        exact withInterval_eq hsame secs
      · unfold logLevel
        cases request.level with
        | some level => rfl
        | none => exact congrArg LogSettings.level hsame.log

/-! Two sites whose project files give the interval, one of them zero, and a request that replaces it. -/

def intervalTable (secs : Int64) : Table := [("heartbeat", .table [("interval_secs", .integer secs)])]

def zeroText : String := "[heartbeat]\ninterval_secs = 0\n"

def tenText : String := "[heartbeat]\ninterval_secs = 10\n"

/-- a site with one configuration file, and a process that owns the files and has no privilege -/
def siteHolding (text : String) : Site where
  tree := {
    entries := [
      (["work"], .directory), (["work", ".nvprobe"], .directory),
      (["work", ".nvprobe", "config.toml"], .file 0o644 (Text.encode text))]
    caller := { overrides _ := false } }
  directory := ["work"]
  home := none
  environment _ := none

theorem siteHolding_alike (text other : String) : SitesAlike (siteHolding text) (siteHolding other) := by
  refine ⟨⟨rfl, fun location => ?_⟩, rfl, fun _ _ => rfl⟩
  simp only [siteHolding, Tree.get?, Tree.find?]
  split_ifs
  · exact .inl rfl
  · exact .inl rfl
  · exact .inl rfl
  · exact .inr ⟨_, _, _, rfl, rfl⟩
  · exact .inl rfl

theorem siteHolding_layers {text : String} {table : Table} (h : Toml.readTable text = some table) :
    HasLayers (siteHolding text).tree (siteHolding text).directory (siteHolding text).home none (some table) :=
  ⟨rfl, readLayer_of_file (resolve_projectPath_file rfl rfl rfl rfl)
    (Caller.mayOpen_of_bit rfl (by decide : (0o644 : UInt32) &&& 0o400 ≠ 0) _) h⟩

theorem assemble_interval (secs : Int64) :
    Toml.assemble [.header ["heartbeat"], .assignment ["interval_secs"] (.integer secs)] =
      some (intervalTable secs) := by
  simp [Toml.assemble, Toml.Document.add, Toml.Document.empty, Toml.within, Toml.assign, Toml.define, Toml.openTable,
    Toml.Keyed.find?, Toml.Keyed.set, Toml.Keyed.put, Toml.entriesToTable, Toml.keyedToValue, Toml.Entry.toValue,
    Toml.settledEntries, Toml.settledEntry, Toml.Value.settled, Toml.standsForMoment, Toml.momentKey, intervalTable]

theorem intervalTable_alike (secs other : Int64) :
    TablesSameButInterval (intervalTable secs) (intervalTable other) where
  others name hname := by simp [intervalTable, Toml.Keyed.find?, hname.symm]
  heartbeat := .tables fun key hkey => by simp [Toml.Keyed.find?, hkey.symm]

/-- a zero that the command line replaces is refused all the same -/
theorem zero_not_seenAlike :
    (SitesAlike (siteHolding zeroText) (siteHolding tenText) ∧
      TablesSameButInterval (intervalTable 0) (intervalTable 10) ∧
      Gives (siteHolding zeroText) none (some (intervalTable 0)) { heartbeat.intervalSecs := 0 } ∧
      Gives (siteHolding tenText) none (some (intervalTable 10)) { heartbeat.intervalSecs := 10 } ∧
      parse ["t", "--interval", "5", "--once"] = .ok { path := some "t", interval := some 5, once := true }) ∧
    ¬ SeenAlike (siteHolding zeroText).tree (siteHolding tenText).tree
      (run (siteHolding zeroText) ["t", "--interval", "5", "--once"])
      (run (siteHolding tenText) ["t", "--interval", "5", "--once"]) := by
  have halike := siteHolding_alike zeroText tenText
  have htables := intervalTable_alike 0 10
  have hzeroTable : Toml.readTable zeroText = some (intervalTable 0) :=
    Toml.readTable_of_statements (by decide) (by cbv) (assemble_interval 0)
  have htenTable : Toml.readTable tenText = some (intervalTable 10) :=
    Toml.readTable_of_statements (by decide) (by cbv) (assemble_interval 10)
  have hzero : Gives (siteHolding zeroText) none (some (intervalTable 0)) { heartbeat.intervalSecs := 0 } :=
    ⟨siteHolding_layers hzeroTable, { heartbeat.intervalSecs := 0 }, by cbv, by cbv⟩
  have hten : Gives (siteHolding tenText) none (some (intervalTable 10)) { heartbeat.intervalSecs := 10 } :=
    ⟨siteHolding_layers htenTable, { heartbeat.intervalSecs := 10 }, by cbv, by cbv⟩
  have hparse : parse ["t", "--interval", "5", "--once"] =
      .ok { path := some "t", interval := some 5, once := true } := by cbv
  refine ⟨⟨halike, htables, hzero, hten, hparse⟩, ?_⟩
  have hseen := @seenAlike_iff_zero _ _ halike none (some (intervalTable 0)) none (some (intervalTable 10))
    ⟨fun _ _ => rfl, .same _⟩ htables _ _ hzero hten _ _ hparse (by simp) 5 rfl (by decide)
  rw [hseen]
  decide

end BlockProbe.Command
