/-
From a request to a plan, and from a plan to the run.

- `plan_eq_ok`: what a plan is made of.
- `plan_of_no_path`, `plan_of_error`, `plan_of_check`: why there is none.
- `runOn_of_stop`, `runOn_of_load`: what a run makes of its arguments and its settings.
- `proceed_of_failure`, `proceed_of_plan`, `runOn_of_not_makes`: what it makes of a plan or of none.
- `carryOut_eq`, `carryOut_congr`: what a plan leaves of the files, and the filter, decide about nothing else.
-/
import BlockProbe.Command.Run
import BlockProbe.Proofs.Results

namespace BlockProbe.Command

open BlockProbe.Files (Attempt)
open BlockProbe.Log (Filter)
open BlockProbe.Settings (load)

@[simp] theorem withInterval_probe (settings : Settings) (interval : Option UInt64) :
    (withInterval settings interval).probe = settings.probe := by cases interval <;> rfl

@[simp] theorem withInterval_message (settings : Settings) (interval : Option UInt64) :
    (withInterval settings interval).heartbeat.message = settings.heartbeat.message := by cases interval <;> rfl

@[simp] theorem withInterval_interval (settings : Settings) (interval : Option UInt64) :
    (withInterval settings interval).heartbeat.intervalSecs = interval.getD settings.heartbeat.intervalSecs := by
  cases interval <;> rfl

/-- what a plan is made of: the settings with the request's interval, once they pass the check -/
theorem plan_eq_ok {request : Request} {settings : Settings} {made : Plan}
    (h : plan request (.ok settings) = .ok made) :
    ∃ path, request.path = some path ∧ (withInterval settings request.interval).check = .ok () ∧
      made = {
        path
        options := { mode := settings.probe.fileMode, sync := request.sync || settings.probe.sync }
        verify := settings.probe.verify && !request.noVerify
        once := request.once
        heartbeat := (withInterval settings request.interval).heartbeat } := by
  unfold plan at h
  cases hpath : request.path with
  | none => rw [hpath] at h; cases h
  | some path =>
    simp only [hpath] at h
    cases hcheck : (withInterval settings request.interval).check with
    | error reason => rw [hcheck] at h; cases h
    | ok _ =>
      rw [hcheck] at h
      cases h
      exact ⟨path, rfl, rfl, by simp⟩

theorem plan_of_no_path {request : Request} (hpath : request.path = none)
    (loaded : Except Settings.LoadError Settings) : plan request loaded = .error .usage := by
  unfold plan
  rw [hpath]

theorem plan_of_error {request : Request} (hpath : request.path ≠ none) (error : Settings.LoadError) :
    plan request (.error error) = .error (.settings error) := by
  unfold plan
  cases h : request.path with
  | none => exact (hpath h).elim
  | some path => rfl

/-- a plan is made from settings that loaded -/
theorem loaded_of_plan {request : Request} {loaded : Except Settings.LoadError Settings} {made : Plan}
    (h : plan request loaded = .ok made) : ∃ settings, loaded = .ok settings := by
  cases loaded with
  | ok settings => exact ⟨settings, rfl⟩
  | error error => unfold plan at h; split at h <;> cases h

theorem plan_of_check {request : Request} (hpath : request.path ≠ none) {settings : Settings}
    {reason : Settings.Unusable} (hcheck : (withInterval settings request.interval).check = .error reason) :
    plan request (.ok settings) = .error (.settings (.invalid (.unusable reason))) := by
  unfold plan
  cases h : request.path with
  | none => exact (hpath h).elim
  | some path => simp only [hcheck]

theorem plan_of_passed {request : Request} (hpath : request.path ≠ none) {settings : Settings}
    (hcheck : (withInterval settings request.interval).check = .ok ()) :
    ∃ made, plan request (.ok settings) = .ok made := by
  unfold plan
  cases h : request.path with
  | none => exact (hpath h).elim
  | some path => simp only [hcheck]; exact ⟨_, rfl⟩

/-! ## The run -/

variable {site : Site} (device : Device) {arguments : List String} {request : Request}
  {loaded : Except Settings.LoadError Settings}

/-- a run goes on with what loading came to -/
theorem runOn_of_load (hparse : parse arguments = .ok request)
    (hload : load site.tree site.directory site.home site.environment = .ofExcept loaded) :
    runOn site device arguments = proceed site device request loaded := by
  unfold runOn
  cases loaded with
  | error error => simp only [hparse, hload, Attempt.ofExcept]
  | ok settings => simp only [hparse, hload, Attempt.ofExcept]

/-- a run whose arguments ask for nothing to be done does nothing -/
theorem runOn_of_stop {stop : Stop} (hparse : parse arguments = .error stop) :
    runOn site device arguments = stopped site.tree stop := by
  unfold runOn
  rw [hparse]

variable {device}

/-- where nothing can be planned the run fails before it has done anything -/
theorem proceed_of_failure {failure : Failure} (hplan : plan request loaded = .error failure) :
    proceed site device request loaded =
      Transcript.fail {
        filter := Filter.inForce (site.environment "RUST_LOG") (logLevel request loaded)
        tree := site.tree
        outcome := .finished } failure := by
  unfold proceed
  rw [hplan]

/-- a plan is carried out -/
theorem proceed_of_plan {made : Plan} (hplan : plan request loaded = .ok made) :
    proceed site device request loaded =
      carryOut made (device.target made)
        (Filter.inForce (site.environment "RUST_LOG") (logLevel request loaded)) (device.after made) := by
  unfold proceed
  rw [hplan]

/-- what becomes of a plan is decided by its round trip, but for the filter and the files afterwards -/
theorem carryOut_eq {made : Plan} {target other : Probe.Target} (h : trip made target = trip made other)
    (filter otherFilter : Filter) (tree otherTree : Files.Tree) :
    carryOut made target filter tree = { carryOut made other otherFilter otherTree with filter, tree } := by
  unfold carryOut
  rw [h]
  obtain ⟨tripRecords, attempt⟩ := trip made other
  cases attempt with
  | waits => rfl
  | failed failure => cases failure <;> rfl
  | done read =>
    dsimp only
    obtain ⟨verdictRecords, verdict⟩ := judge made read
    cases verdict with
    | error failure => cases failure <;> rfl
    | ok _ => cases made.once <;> rfl

theorem carryOut_tree (made : Plan) (target : Probe.Target) (filter : Filter) (tree : Files.Tree) :
    (carryOut made target filter tree).tree = tree :=
  congrArg Transcript.tree (carryOut_eq rfl filter filter tree tree)

theorem carryOut_filter (made : Plan) (target : Probe.Target) (filter : Filter) (tree : Files.Tree) :
    (carryOut made target filter tree).filter = filter :=
  congrArg Transcript.filter (carryOut_eq rfl filter filter tree tree)

/-- a transcript with other files afterwards -/
theorem carryOut_congr {made : Plan} {target other : Probe.Target} (h : trip made target = trip made other)
    (filter : Filter) (tree otherTree : Files.Tree) :
    carryOut made target filter tree = { carryOut made other filter otherTree with tree } := by
  have hfilter := carryOut_filter made other filter otherTree
  rw [carryOut_eq h filter filter tree otherTree]
  generalize carryOut made other filter otherTree = transcript at *
  obtain ⟨output, complaints, records, shown, left, outcome⟩ := transcript
  cases hfilter
  rfl

/-- a failure leaves the files as they are -/
theorem fail_tree (transcript : Transcript) (failure : Failure) : (transcript.fail failure).tree = transcript.tree := by
  cases failure <;> rfl

/-- the run makes this plan: its arguments are accepted, its settings load, and they pass with the request's interval -/
def Makes (site : Site) (arguments : List String) (made : Plan) : Prop :=
  ∃ request settings, parse arguments = .ok request ∧
    load site.tree site.directory site.home site.environment = .done settings ∧ plan request (.ok settings) = .ok made

theorem fail_outcome (transcript : Transcript) (failure : Failure) :
    (transcript.fail failure).outcome = .failed failure := by
  cases failure <;> rfl

/-- a run that makes no plan does not meet its device: it leaves the files as they are and does not idle -/
theorem runOn_of_not_makes (h : ∀ made, ¬ Makes site arguments made) :
    ∃ transcript : Transcript, transcript.tree = site.tree ∧ transcript.outcome ≠ .waiting .idle ∧
      ∀ device, runOn site device arguments = transcript := by
  cases hparse : parse arguments with
  | error stop =>
    refine ⟨stopped site.tree stop, ?_, ?_, fun device => runOn_of_stop device hparse⟩
    · cases stop <;> rfl
    · cases stop <;> simp [stopped]
  | ok request =>
    by_cases hwaits : load site.tree site.directory site.home site.environment = .waits
    · refine ⟨{ tree := site.tree, outcome := .waiting .settings }, rfl, by simp, fun device => ?_⟩
      unfold runOn
      simp only [hparse, hwaits]
    · obtain ⟨loaded, hload⟩ := Attempt.ofExcept_of_not_waits hwaits
      cases hplan : plan request loaded with
      | error failure =>
        refine ⟨proceed site (filesOf site) request loaded, ?_, ?_, fun device => ?_⟩
        · rw [proceed_of_failure hplan, fail_tree]
        · rw [proceed_of_failure hplan, fail_outcome]
          simp
        · rw [runOn_of_load device hparse hload, proceed_of_failure hplan, proceed_of_failure hplan]
      | ok made =>
        obtain ⟨settings, rfl⟩ := loaded_of_plan hplan
        exact (h made ⟨request, settings, hparse, hload, hplan⟩).elim

end BlockProbe.Command
