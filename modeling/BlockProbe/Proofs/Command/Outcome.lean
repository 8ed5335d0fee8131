/-
How a run ends.

`Ends` lists the rules by which a run ends, with the exit status and the standard output of each; a run without an exit
status idles. The rules exclude each other, and a run that is left waiting neither for its settings nor for its target
falls under one of them.

- `carryOut_failed`, `carryOut_done`: what is seen of a plan on a target, by what the round trip gives.
- `ends_iff_seen`: the rules say what is seen of a run, and all of it.
- `Ends.vouches`: an exit status of zero vouches for the target.
-/
import BlockProbe.Proofs.Command.Plan
import BlockProbe.Proofs.Probe.Target
import BlockProbe.Proofs.Probe.Verify
import BlockProbe.Proofs.Settings.Layers
import Mathlib

namespace BlockProbe.Command

open BlockProbe.Files (Attempt)
open BlockProbe.Log (Filter)
open BlockProbe.Probe (ReadBack Target payload)
open BlockProbe.Settings

/-- what comes of a plan's round trip -/
def tried (made : Plan) (target : Target) : Attempt Probe.Error ReadBack :=
  Probe.roundTrip made.path target payload made.options

/-- the run is left waiting neither for its settings nor for its target -/
structure Answers (site : Site) (device : Device) (arguments : List String) : Prop where
  settings : load site.tree site.directory site.home site.environment ≠ .waits
  target : ∀ made, Makes site arguments made → tried made (device.target made) ≠ .waits

/-- the rules by which a run ends, each with the exit status and the standard output; idling has no exit status -/
inductive Ends (site : Site) (device : Device) (arguments : List String) : Option UInt8 → String → Prop
  | refused {refusal : Refusal} (hparse : parse arguments = .error (.refused refusal)) :
    Ends site device arguments (some 2) ""
  | help (hparse : parse arguments = .error .help) : Ends site device arguments (some 0) helpText
  | version (hparse : parse arguments = .error .version) : Ends site device arguments (some 0) versionText
  | noPath {request : Request} (hparse : parse arguments = .ok request) (hpath : request.path = none) :
    Ends site device arguments (some 1) (usageLine ++ "\n")
  | settingsRefused {request : Request} {error : Settings.LoadError} (hparse : parse arguments = .ok request)
    (hpath : request.path ≠ none)
    (hload : load site.tree site.directory site.home site.environment = .failed error) :
    Ends site device arguments (some 5) ""
  | intervalRefused {request : Request} {settings : Settings} {reason : Settings.Unusable}
    (hparse : parse arguments = .ok request) (hpath : request.path ≠ none)
    (hload : load site.tree site.directory site.home site.environment = .done settings)
    (hcheck : (withInterval settings request.interval).check = .error reason) :
    Ends site device arguments (some 5) ""
  | tripFailed {made : Plan} {error : Probe.Error} (hmade : Makes site arguments made)
    (htrip : tried made (device.target made) = .failed error) :
    Ends site device arguments (some 2) (writingLine made)
  | shortRead {made : Plan} {read : ReadBack} (hmade : Makes site arguments made)
    (htrip : tried made (device.target made) = .done read) (hverify : made.verify = true)
    (hlength : read.data.length ≠ 15) :
    Ends site device arguments (some 3) (writingLine made ++ readLine read)
  | mismatch {made : Plan} {read : ReadBack} (hmade : Makes site arguments made)
    (htrip : tried made (device.target made) = .done read) (hverify : made.verify = true)
    (hlength : read.data.length = 15) (hdata : read.data ≠ payload) :
    Ends site device arguments (some 4) (writingLine made ++ readLine read)
  | finished {made : Plan} {read : ReadBack} (hmade : Makes site arguments made)
    (htrip : tried made (device.target made) = .done read) (hdata : made.verify = true → read.data = payload)
    (honce : made.once = true) :
    Ends site device arguments (some 0) (writingLine made ++ readLine read)
  | idle {made : Plan} {read : ReadBack} (hmade : Makes site arguments made)
    (htrip : tried made (device.target made) = .done read) (hdata : made.verify = true → read.data = payload)
    (honce : made.once = false) :
    Ends site device arguments none (writingLine made ++ readLine read ++ made.heartbeat.message ++ "\n")

/-! ## Carrying out a plan -/

theorem payload_length : payload.length = 15 := by cbv

/-- the exit status and the standard output -/
def Transcript.seen (transcript : Transcript) : Option UInt8 × String :=
  (transcript.outcome.exitStatus?, transcript.output)

theorem trip_snd (made : Plan) (target : Target) :
    (trip made target).2 = (tried made target).mapError Failure.probe := by
  unfold trip tried Probe.roundTrip
  cases Probe.writePayload made.path target.sink payload made.options with
  | failed error => rfl
  | waits => rfl
  | done _ =>
    rw [Attempt.done_bind]
    cases Probe.readBack made.path target.source payload.length <;> rfl

/-- the round trip that succeeds, with its records -/
theorem trip_of_done {made : Plan} {target : Target} {read : ReadBack} (h : tried made target = .done read) :
    trip made target = ([writtenRecord made, readRecord read], .done read) := by
  unfold tried Probe.roundTrip at h
  obtain ⟨_, hwrite, hread⟩ := Attempt.bind_eq_done.1 h
  unfold trip
  rw [hwrite]
  dsimp only
  rw [hread]

/-- a failure other than a missing path ends a run with its status and leaves the output as it is -/
theorem fail_seen (transcript : Transcript) {failure : Failure} (h : failure ≠ .usage) :
    (transcript.fail failure).seen = (some failure.exitStatus, transcript.output) := by
  cases failure with
  | usage => exact (h rfl).elim
  | _ => rfl

variable {made : Plan} {target : Target} (filter : Filter) (tree : Files.Tree)

theorem carryOut_failed {error : Probe.Error} (h : tried made target = .failed error) :
    (carryOut made target filter tree).seen = (some 2, writingLine made) := by
  obtain ⟨call, fault, rfl⟩ := Probe.roundTrip_failed h
  have htrip : (trip made target).2 = .failed (.probe { path := made.path, failure := .call call fault }) := by
    rw [trip_snd, h]; rfl
  unfold carryOut
  simp only [htrip]
  exact fail_seen _ (by simp)

theorem carryOut_failed_outcome {error : Probe.Error} (h : tried made target = .failed error) :
    (carryOut made target filter tree).outcome = .failed (.probe error) := by
  have htrip : (trip made target).2 = .failed (.probe error) := by
    rw [trip_snd, h]; rfl
  unfold carryOut
  simp only [htrip]
  exact fail_outcome _ _

/-- the verdict on what came back, as a failure or none -/
theorem judge_eq (read : ReadBack) : (judge made read).2 =
    if made.verify then (Probe.verify made.path payload read).mapError .probe else .ok () := by
  unfold judge
  split_ifs with hverify hholds
  · cases Probe.verify made.path payload read <;> rfl
  · rfl
  · rfl

theorem judge_accepts {read : ReadBack} (h : made.verify = true → read.data = payload) :
    (judge made read).2 = .ok () := by
  rw [judge_eq]
  split_ifs with hverify
  · rw [Probe.verify_eq_ok.2 (h hverify)]; rfl
  · rfl

theorem judge_refuses {read : ReadBack} (hverify : made.verify = true) {error : Probe.Error}
    (h : Probe.verify made.path payload read = .error error) : (judge made read).2 = .error (.probe error) := by
  rw [judge_eq, if_pos hverify, h]
  rfl

theorem carryOut_refused {read : ReadBack} (h : tried made target = .done read) {failure : Failure}
    (hjudge : (judge made read).2 = .error failure) (husage : failure ≠ .usage) :
    (carryOut made target filter tree).seen = (some failure.exitStatus, writingLine made ++ readLine read) := by
  have htrip : (trip made target).2 = .done read := by rw [trip_snd, h]; rfl
  unfold carryOut
  simp only [htrip, hjudge]
  exact fail_seen _ husage

theorem carryOut_accepted {read : ReadBack} (h : tried made target = .done read)
    (hjudge : (judge made read).2 = .ok ()) :
    (carryOut made target filter tree).seen =
      if made.once then (some 0, writingLine made ++ readLine read)
      else (none, writingLine made ++ readLine read ++ made.heartbeat.message ++ "\n") := by
  have htrip : (trip made target).2 = .done read := by rw [trip_snd, h]; rfl
  unfold carryOut
  simp only [htrip, hjudge]
  cases made.once <;> rfl

/-! ## The whole run -/

variable {site : Site} {device : Device} {arguments : List String}

theorem runOn_of_makes (hmade : Makes site arguments made) :
    ∃ filter, runOn site device arguments = carryOut made (device.target made) filter (device.after made) := by
  obtain ⟨request, settings, hparse, hload, hplan⟩ := hmade
  have hloaded : load site.tree site.directory site.home site.environment = .ofExcept (.ok settings) := hload
  rw [runOn_of_load device hparse hloaded, proceed_of_plan hplan]
  exact ⟨_, rfl⟩

/-- each rule says what is seen of the run -/
theorem Ends.seen (hwaits : load site.tree site.directory site.home site.environment ≠ .waits)
    {status : Option UInt8} {output : String} (h : Ends site device arguments status output) :
    (runOn site device arguments).seen = (status, output) := by
  cases h with
  | refused hparse => unfold runOn; rw [hparse]; rfl
  | help hparse => unfold runOn; rw [hparse]; rfl
  | version hparse => unfold runOn; rw [hparse]; rfl
  | noPath hparse hpath =>
    obtain ⟨loaded, hload⟩ := Attempt.ofExcept_of_not_waits hwaits
    rw [runOn_of_load device hparse hload, proceed_of_failure (plan_of_no_path hpath loaded)]
    rfl
  | settingsRefused hparse hpath hload =>
    have hloaded : load site.tree site.directory site.home site.environment = .ofExcept (.error _) := hload
    rw [runOn_of_load device hparse hloaded, proceed_of_failure (plan_of_error hpath _)]
    rfl
  | intervalRefused hparse hpath hload hcheck =>
    have hloaded : load site.tree site.directory site.home site.environment = .ofExcept (.ok _) := hload
    rw [runOn_of_load device hparse hloaded, proceed_of_failure (plan_of_check hpath hcheck)]
    rfl
  | tripFailed hmade htrip =>
    obtain ⟨filter, hrun⟩ := @runOn_of_makes _ _ device _ hmade
    rw [hrun]
    exact carryOut_failed filter _ htrip
  | shortRead hmade htrip hverify hlength =>
    obtain ⟨filter, hrun⟩ := @runOn_of_makes _ _ device _ hmade
    have hjudge := judge_refuses hverify (Probe.verify_of_length (by rwa [payload_length]))
    rw [hrun, carryOut_refused filter _ htrip hjudge (by simp)]
    rfl
  | mismatch hmade htrip hverify hlength hdata =>
    obtain ⟨filter, hrun⟩ := @runOn_of_makes _ _ device _ hmade
    obtain ⟨offset, -, hrefused⟩ := Probe.verify_of_data (by rwa [payload_length]) hdata
    rw [hrun, carryOut_refused filter _ htrip (judge_refuses hverify hrefused) (by simp)]
    rfl
  | finished hmade htrip hdata honce =>
    obtain ⟨filter, hrun⟩ := @runOn_of_makes _ _ device _ hmade
    rw [hrun, carryOut_accepted filter _ htrip (judge_accepts hdata), if_pos honce]
  | idle hmade htrip hdata honce =>
    obtain ⟨filter, hrun⟩ := @runOn_of_makes _ _ device _ hmade
    rw [hrun, carryOut_accepted filter _ htrip (judge_accepts hdata), if_neg (by simp [honce])]

/-- a plan whose target answers falls under some rule -/
theorem Answers.ends_of_makes (h : Answers site device arguments) (hmade : Makes site arguments made) :
    ∃ status output, Ends site device arguments status output := by
  cases htrip : tried made (device.target made) with
  | waits => exact (h.target made hmade htrip).elim
  | failed error => exact ⟨_, _, .tripFailed hmade htrip⟩
  | done read =>
    by_cases hdata : made.verify = true → read.data = payload
    · cases honce : made.once with
      | true => exact ⟨_, _, .finished hmade htrip hdata honce⟩
      | false => exact ⟨_, _, .idle hmade htrip hdata honce⟩
    · obtain ⟨hverify, hdata⟩ := Classical.not_imp.1 hdata
      by_cases hlength : read.data.length = 15
      · exact ⟨_, _, .mismatch hmade htrip hverify hlength hdata⟩
      · exact ⟨_, _, .shortRead hmade htrip hverify hlength⟩

/-- only one rule lets an accepted command line end with zero -/
theorem Ends.vouches {request : Request} (hparse : parse arguments = .ok request) {output : String}
    (h : Ends site device arguments (some 0) output) :
    ∃ made read, Makes site arguments made ∧ made.once = true ∧ tried made (device.target made) = .done read ∧
      (made.verify = true → read.data = payload) := by
  cases h with
  | help hother => rw [hparse] at hother; cases hother
  | version hother => rw [hparse] at hother; cases hother
  | finished hmade htrip hdata honce => exact ⟨_, _, hmade, honce, htrip, hdata⟩

/-- a run that is not blocked falls under some rule -/
theorem Answers.ends (h : Answers site device arguments) :
    ∃ status output, Ends site device arguments status output := by
  cases hparse : parse arguments with
  | error stop =>
    cases stop with
    | help => exact ⟨_, _, .help hparse⟩
    | version => exact ⟨_, _, .version hparse⟩
    | refused refusal => exact ⟨_, _, .refused hparse⟩
  | ok request =>
    by_cases hpath : request.path = none
    · exact ⟨_, _, .noPath hparse hpath⟩
    cases hload : load site.tree site.directory site.home site.environment with
    | waits => exact (h.settings hload).elim
    | failed error => exact ⟨_, _, .settingsRefused hparse hpath hload⟩
    | done settings =>
      cases hcheck : (withInterval settings request.interval).check with
      | error reason => exact ⟨_, _, .intervalRefused hparse hpath hload hcheck⟩
      | ok _ =>
        obtain ⟨made, hplan⟩ := plan_of_passed hpath hcheck
        exact h.ends_of_makes ⟨request, settings, hparse, hload, hplan⟩

/-- **How a run ends.** Unless a run is left waiting for its settings or its target, the rules give its exit status and
its standard output, and an accepted command line that ends with zero has found what it had to: it was to end after the
round trip, which succeeded, and if it was to verify, the payload came back. -/
theorem ends_iff_seen (h : Answers site device arguments) :
    (∀ status output, Ends site device arguments status output ↔
      (runOn site device arguments).outcome.exitStatus? = status ∧ (runOn site device arguments).output = output) ∧
    (∀ request, parse arguments = .ok request → (runOn site device arguments).outcome.exitStatus? = some 0 →
      ∃ made read, Makes site arguments made ∧ made.once = true ∧ tried made (device.target made) = .done read ∧
        (made.verify = true → read.data = payload)) := by
  obtain ⟨status, output, hends⟩ := h.ends
  have hseen := hends.seen h.settings
  have hstatus : (runOn site device arguments).outcome.exitStatus? = status := congrArg Prod.fst hseen
  have houtput : (runOn site device arguments).output = output := congrArg Prod.snd hseen
  refine ⟨?_, ?_⟩
  · intro other text
    constructor
    · intro hother
      exact ⟨congrArg Prod.fst (hother.seen h.settings), congrArg Prod.snd (hother.seen h.settings)⟩
    · rintro ⟨rfl, rfl⟩
      rwa [hstatus, houtput]
  · intro request hparse hzero
    rw [hstatus] at hzero
    subst hzero
    exact hends.vouches hparse

/-! A target that returns as many bytes as were written, but not the ones that were written. -/

def bareSite : Site := { tree := .empty, directory := [], home := none, environment := fun _ => none }

def staleDevice : Device where
  target _ := {
    sink := { opens := [.ok ()], writes := [.ok 15], syncs := [.ok ()] }
    source := { opens := [.ok ()], reads := [.ok (Text.encode "Excelero"), .ok (Text.encode " volume")] } }
  after _ := .empty

def staleRead : ReadBack := { requested := 15, data := Text.encode "Excelero volume" }

def barePlan : Plan := { path := "t", options := {}, verify := true, once := true, heartbeat := {} }

theorem bareSite_loads : load bareSite.tree bareSite.directory bareSite.home bareSite.environment =
    .done Settings.default := load_of_nothing rfl

theorem staleDevice_tried (made : Plan) : tried made (staleDevice.target made) = .done staleRead := by
  have hwrite : Probe.writePayload made.path (staleDevice.target made).sink payload made.options = .done () := by
    unfold Probe.writePayload
    cases made.options.sync <;> cbv
  have hread : Probe.readBack made.path (staleDevice.target made).source payload.length = .done staleRead := by
    cbv
  unfold tried Probe.roundTrip
  rw [hwrite, Attempt.done_bind, hread]

theorem bareSite_makes : Makes bareSite ["t", "--once"] barePlan :=
  ⟨{ path := some "t", once := true }, Settings.default, by cbv, bareSite_loads, by cbv⟩

/-- the sample's run ends as a mismatch -/
theorem stale_ends_iff_seen :
    Answers bareSite staleDevice ["t", "--once"] ∧
      (runOn bareSite staleDevice ["t", "--once"]).outcome.exitStatus? = some 4 ∧
      (runOn bareSite staleDevice ["t", "--once"]).output =
        "Writing to file t\nRead 15 bytes: \"Excelero volume\"\n" := by
  have hanswers : Answers bareSite staleDevice ["t", "--once"] := by
    refine ⟨?_, ?_⟩
    · rw [bareSite_loads]; simp
    · intro made _; rw [staleDevice_tried]; simp
  have hends : Ends bareSite staleDevice ["t", "--once"] (some 4) (writingLine barePlan ++ readLine staleRead) :=
    .mismatch bareSite_makes (staleDevice_tried barePlan) rfl (by cbv) (by decide)
  have hlines : writingLine barePlan ++ readLine staleRead =
      "Writing to file t\nRead 15 bytes: \"Excelero volume\"\n" := by cbv
  rw [hlines] at hends
  exact ⟨hanswers, ((ends_iff_seen hanswers).1 _ _).1 hends⟩

end BlockProbe.Command
