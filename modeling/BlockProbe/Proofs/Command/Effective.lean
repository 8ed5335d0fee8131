/-
What a run works with.

The layers of a run are, from the highest down: the command line, the environment, the project's file, the operator's
file, and the defaults. An option of the command line replaces the setting it names; a flag of the command line only
adds to what the layers below say.

- `Effective`: a plan whose every part comes from the highest layer that says something about it.
- `plan_from_highest_layer`: the plan that a run carries out is such a plan.
-/
import BlockProbe.Proofs.Command.Plan
import BlockProbe.Proofs.Settings.Precedence
import BlockProbe.Proofs.Toml.Read
import Mathlib

namespace BlockProbe.Command

open BlockProbe.Files
open BlockProbe.Log (Filter)
open BlockProbe.Settings
open BlockProbe.Toml

/-- every part of a plan, and the log level, comes from the highest layer that says something about it; of a level that
is a table in both files, nothing is said -/
structure Effective (environment : Environment) (lower upper : Table) (request : Request) (plan : Plan)
    (level : Level) : Prop where
  path : request.path = some plan.path
  once : plan.once = request.once
  interval : highest [request.interval.map some,
    fromEnvironment environment "NVPROBE_HEARTBEAT_SECS" readInterval,
    fromFiles heartbeatSection "heartbeat" "interval_secs" asUnsigned64 lower upper,
    some (some 10)] = some plan.heartbeat.intervalSecs
  level : ¬ TableInBoth "log" "level" lower upper →
    highest [request.level.map some,
      fromEnvironment environment "NVPROBE_LOG" Level.parse,
      fromFiles logSection "log" "level" asLevel lower upper,
      some (some .warn)] = some level
  sync : ∃ sync, highest [fromEnvironment environment "NVPROBE_SYNC" (parseBoolean "NVPROBE_SYNC"),
    fromFiles probeSection "probe" "sync" asBoolean lower upper,
    some (some false)] = some sync ∧ plan.options.sync = (request.sync || sync)
  verify : ∃ verify, highest [fromEnvironment environment "NVPROBE_VERIFY" (parseBoolean "NVPROBE_VERIFY"),
    fromFiles probeSection "probe" "verify" asBoolean lower upper,
    some (some true)] = some verify ∧ plan.verify = (verify && !request.noVerify)
  fileMode : highest [fromFiles probeSection "probe" "file_mode" asUnsigned32 lower upper,
    some (some defaultFileMode)] = some plan.options.mode
  message : highest [fromFiles heartbeatSection "heartbeat" "message" asText lower upper,
    some (some "- Sleeping")] = some plan.heartbeat.message

/-- **Layer precedence.** Let two files hold tables in key order, let them and the environment give settings, and let a
plan stand for a request: the plan, with the level of the log, takes every setting from the highest layer that says
something about it. And this plan is what a run of the request at any such site carries out, whatever the device. -/
theorem plan_from_highest_layer {lower upper : Option Table}
    (hlower : OrderedTable (tableOf lower)) (hupper : OrderedTable (tableOf upper))
    {environment : Environment} {settings : Settings}
    (hload : (ofLayers [lower, upper] >>= finish environment) = .ok settings)
    {request : Request} {made : Plan} (hplan : plan request (.ok settings) = .ok made) :
    Effective environment (tableOf lower) (tableOf upper) request made (logLevel request (.ok settings)) ∧
    ∀ (site : Site) (device : Device) (arguments : List String), site.environment = environment →
      HasLayers site.tree site.directory site.home lower upper → parse arguments = .ok request →
      runOn site device arguments =
        carryOut made (device.target made)
          (Filter.inForce (environment "RUST_LOG") (logLevel request (.ok settings))) (device.after made) := by
  obtain ⟨path, hpath, -, rfl⟩ := plan_eq_ok hplan
  have hloaded := loaded_fromLayers hlower hupper hload
  refine ⟨⟨hpath, rfl, ?_, ?_, ⟨_, hloaded.sync, rfl⟩, ⟨_, hloaded.verify, rfl⟩, hloaded.fileMode, ?_⟩, ?_⟩
  · rw [withInterval_interval]
    exact highest_option request.interval hloaded.interval
  · intro hlevel
    have hlog : logLevel request (.ok settings) = request.level.getD settings.log.level := by
      unfold logLevel; cases request.level <;> rfl
    rw [hlog]
    exact highest_option request.level (hloaded.level hlevel)
  · rw [withInterval_message]
    exact hloaded.message
  · rintro site device arguments rfl hlayers hparse
    have hloads : load site.tree site.directory site.home site.environment = .ofExcept (.ok settings) := by
      rw [load_of_layers hlayers, hload]
    rw [runOn_of_load device hparse hloads, proceed_of_plan hplan]

/-! A site at work: the operator's file and the project's conflict over both sections they share, the environment
overrides a check that the project turns off, and the request brings an interval and a flag. -/

def sampleLower : Table := [
  ("heartbeat", .table [("interval_secs", .integer 7), ("message", .text "below")]),
  ("probe", .table [("file_mode", .integer 0o600), ("verify", .boolean false)])]

def sampleUpper : Table := [
  ("heartbeat", .array [.integer 3]),
  ("probe", .table [("sync", .boolean true), ("verify", .boolean false)])]

def sampleLowerText : String :=
  "[probe]\nfile_mode = 0o600\nverify = false\n[heartbeat]\ninterval_secs = 7\nmessage = 'below'\n"

def sampleUpperText : String := "heartbeat = [3]\nprobe.sync = true\nprobe.verify = false\n"

def sampleSite : Site where
  tree := { entries := [
    (["home"], .directory), (["home", ".nvprobe"], .directory),
    (["home", ".nvprobe", "config.toml"], .file 0o644 (Text.encode sampleLowerText)),
    (["work"], .directory), (["work", ".nvprobe"], .directory),
    (["work", ".nvprobe", "config.toml"], .file 0o644 (Text.encode sampleUpperText))] }
  directory := ["work"]
  home := some "/home"
  environment name :=
    if name = "NVPROBE_VERIFY" then some " YES\n" else if name = "NVPROBE_LOG" then some "Debug" else none

def sampleArguments : List String := ["target", "--interval", "5", "--sync"]

def sampleRequest : Request := { path := some "target", interval := some 5, sync := true }

def sampleSettings : Settings where
  probe := { fileMode := 0o600, verify := true, sync := true }
  heartbeat := { intervalSecs := 3 }
  log := { level := .debug }

def samplePlan : Plan where
  path := "target"
  options := { mode := 0o600, sync := true }
  verify := true
  once := false
  heartbeat := { intervalSecs := 5 }

theorem sampleLower_ordered : OrderedTable sampleLower :=
  ⟨by unfold Keyed.Ascending; decide, by simp [sampleLower, Keyed.Ascending, -String.lt_iff_ltb]⟩

theorem sampleUpper_ordered : OrderedTable sampleUpper :=
  ⟨by unfold Keyed.Ascending; decide, by simp [sampleUpper, Keyed.Ascending, -String.lt_iff_ltb]⟩

theorem sampleLowerText_table : readTable sampleLowerText = some sampleLower := by
  have hstatements : readStatements (sampleLowerText.toList.length + 1) sampleLowerText.toList = some [
      .header ["probe"], .assignment ["file_mode"] (.integer 0o600), .assignment ["verify"] (.boolean false),
      .header ["heartbeat"], .assignment ["interval_secs"] (.integer 7), .assignment ["message"] (.text "below")] := by
    cbv
  refine readTable_of_statements (by decide) hstatements ?_
  simp [assemble, Document.add, Document.empty, within, assign, define, openTable, Keyed.find?, Keyed.set, Keyed.put,
    entriesToTable, keyedToValue, Entry.toValue, settledEntries, settledEntry, Value.settled, standsForMoment,
    momentKey, sampleLower, -String.lt_iff_ltb]

theorem sampleUpperText_table : readTable sampleUpperText = some sampleUpper := by
  have hstatements : readStatements (sampleUpperText.toList.length + 1) sampleUpperText.toList = some [
      .assignment ["heartbeat"] (.array [.integer 3]), .assignment ["probe", "sync"] (.boolean true),
      .assignment ["probe", "verify"] (.boolean false)] := by
    cbv
  refine readTable_of_statements (by decide) hstatements ?_
  simp [assemble, Document.add, Document.empty, within, assign, define, Keyed.find?, Keyed.set, Keyed.put,
    entriesToTable, keyedToValue, Entry.toValue, settledEntries, settledEntry, Value.settled, settledItems,
    standsForMoment, momentKey, sampleUpper, -String.lt_iff_ltb]

theorem sampleLower_file : resolve sampleSite.tree .use sampleSite.directory (globalPath "/home") =
    .ok (.existing ["home", ".nvprobe", "config.toml"] (.file 0o644 (Text.encode sampleLowerText))) := by
  have hcomponents : components (globalPath "/home") = ["", "home", ".nvprobe", "config.toml"] := by cbv
  have hsize : (globalPath "/home").utf8ByteSize = 26 := by cbv
  have habsolute : isAbsolute (globalPath "/home") = true := by cbv
  unfold resolve
  simp [hcomponents, hsize, habsolute, pathLimit, linkLimit, walkFollowing, walk, sampleSite, Tree.get?, Tree.find?,
    nameLimit]
  decide

theorem sampleUpper_file : resolve sampleSite.tree .use sampleSite.directory projectPath =
    .ok (.existing ["work", ".nvprobe", "config.toml"] (.file 0o644 (Text.encode sampleUpperText))) :=
  resolve_projectPath_file rfl rfl rfl rfl

theorem sampleSite_layers : HasLayers sampleSite.tree sampleSite.directory sampleSite.home (some sampleLower)
    (some sampleUpper) :=
  ⟨readLayer_of_file sampleLower_file rfl sampleLowerText_table,
    readLayer_of_file sampleUpper_file rfl sampleUpperText_table⟩

/-- the sample's run, layer by layer -/
theorem sample_plan_from_highest_layer :
    (OrderedTable sampleLower ∧ OrderedTable sampleUpper ∧ ¬ TableInBoth "log" "level" sampleLower sampleUpper ∧
      (ofLayers [some sampleLower, some sampleUpper] >>= finish sampleSite.environment) = .ok sampleSettings ∧
      plan sampleRequest (.ok sampleSettings) = .ok samplePlan ∧
      HasLayers sampleSite.tree sampleSite.directory sampleSite.home (some sampleLower) (some sampleUpper) ∧
      parse sampleArguments = .ok sampleRequest) ∧
    Effective sampleSite.environment sampleLower sampleUpper sampleRequest samplePlan .debug ∧
    run sampleSite sampleArguments = carryOut samplePlan (targetAt sampleSite samplePlan)
      (Filter.inForce (sampleSite.environment "RUST_LOG") .debug) (treeAfter sampleSite samplePlan) := by
  have hlevel : ¬ TableInBoth "log" "level" sampleLower sampleUpper := by
    rintro ⟨_, _, _, h⟩
    simp [sampleUpper, Keyed.find?] at h
  have hload : (ofLayers [some sampleLower, some sampleUpper] >>= finish sampleSite.environment) =
      .ok sampleSettings := by cbv
  have hplan : plan sampleRequest (.ok sampleSettings) = .ok samplePlan := by cbv
  have hparse : parse sampleArguments = .ok sampleRequest := by cbv
  obtain ⟨heffective, hrun⟩ := @plan_from_highest_layer (some sampleLower) (some sampleUpper) sampleLower_ordered
    sampleUpper_ordered _ _ hload _ _ hplan
  exact ⟨⟨sampleLower_ordered, sampleUpper_ordered, hlevel, hload, hplan, sampleSite_layers, hparse⟩, heffective,
    hrun sampleSite (filesOf sampleSite) sampleArguments rfl sampleSite_layers hparse⟩

end BlockProbe.Command
