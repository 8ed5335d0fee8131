/-
Reporting a read-back that differs instead of failing for it.

`--no-verify` turns verification off. What came back is compared all the same, by another function, and a difference is
logged as a warning. The two comparisons agree on whatever a target delivers.

- `judge_enforcing`, `judge_reporting`: both verdicts come down to whether the payload came back.
- `sameVerdict`: a plan that verifies and the same plan that reports, on one target.
- `reporting_agrees`: a run that verifies and the run with the flag added, side by side.
-/
import BlockProbe.Proofs.Command.Insertion
import BlockProbe.Proofs.Command.Outcome

namespace BlockProbe.Command

open BlockProbe.Files (Attempt)
open BlockProbe.Log (Filter Record)
open BlockProbe.Probe (ReadBack Target payload)
open BlockProbe.Settings

/-- the warnings of a run, shown or not -/
def Transcript.warnings (transcript : Transcript) : List Record :=
  transcript.records.filter fun record => record.level = .warn

/-- a plan that only reports -/
def Plan.reporting (plan : Plan) : Plan := { plan with verify := false }

/-- a device that meets a plan in the same way whether the plan verifies or reports -/
structure Device.Unaware (device : Device) : Prop where
  target : ∀ plan : Plan, device.target plan.reporting = device.target plan
  after : ∀ plan : Plan, device.after plan.reporting = device.after plan

/-- files do not know what becomes of a read-back -/
theorem filesOf_unaware (site : Site) : (filesOf site).Unaware := ⟨fun _ => rfl, fun _ => rfl⟩

/-- two runs over what came back: the first fails if it differs from the payload, the second warns -/
structure SameVerdict (enforcing reporting : Transcript) (read : ReadBack) : Prop where
  requested : read.requested = 15
  reports : reporting.outcome.exitStatus? = some 0
  warns : reporting.warnings = if enforcing.outcome.exitStatus? = some 0 then [] else [differsRecord read]
  shortRead : enforcing.outcome.exitStatus? = some 3 ↔ read.data.length ≠ 15
  mismatch : enforcing.outcome.exitStatus? = some 4 ↔
    enforcing.outcome.exitStatus? ≠ some 0 ∧ read.data.length = 15
  passes : enforcing.outcome.exitStatus? = some 0 ↔ read.data = payload
  verifies : enforcing.outcome.exitStatus? = some 0 →
    verifiedRecord read ∈ enforcing.records ∧ enforcing.warnings = []

variable {made : Plan} {target : Target} {read : ReadBack}

/-! ## What came back -/

theorem holds_iff : read.holds payload = true ↔ read.data = payload := beq_iff_eq

/-- a read-back knows how much was asked for -/
theorem tried_requested (h : tried made target = .done read) : read.requested = 15 := by
  obtain ⟨data, -, rfl⟩ := Probe.roundTrip_done h
  exact payload_length

/-- what is seen of a plan before its read-back is judged -/
def judged (made : Plan) (read : ReadBack) (filter : Filter) (tree : Files.Tree) : Transcript where
  output := writingLine made ++ readLine read
  records := startingRecord made :: writtenRecord made :: readRecord read :: (judge made read).1
  filter := filter
  tree := tree
  outcome := .finished

variable (filter : Filter) (tree : Files.Tree)

/-- what becomes of a read-back: it fails the run, or is the last that is seen of it, or the run idles -/
theorem carryOut_read (h : tried made target = .done read) :
    carryOut made target filter tree =
      match (judge made read).2 with
      | .error failure => (judged made read filter tree).fail failure
      | .ok () =>
        if made.once then judged made read filter tree
        else { judged made read filter tree with
          output := (judged made read filter tree).output ++ made.heartbeat.message ++ "\n"
          outcome := .waiting .idle } := by
  unfold carryOut
  rw [trip_of_done h]
  dsimp only
  cases (judge made read).2 with
  | error failure => rfl
  | ok _ => rfl

theorem carryOut_done (h : tried made target = .done read) (honce : made.once = true) :
    carryOut made target filter tree =
      match (judge made read).2 with
      | .ok () => judged made read filter tree
      | .error failure => (judged made read filter tree).fail failure := by
  rw [carryOut_read filter tree h, honce]
  cases (judge made read).2 with
  | error failure => rfl
  | ok _ => rfl

theorem carryOut_waits (h : tried made target = .waits) :
    (carryOut made target filter tree).output = writingLine made ∧
      (carryOut made target filter tree).outcome = .waiting .probing := by
  have htrip : (trip made target).2 = .waits := by rw [trip_snd, h]; rfl
  unfold carryOut
  simp only [htrip, and_self]

theorem carryOut_complaints {error : Probe.Error} (h : tried made target = .failed error) :
    (carryOut made target filter tree).complaints = ["Error: " ++ error.message] := by
  have htrip : (trip made target).2 = .failed (.probe error) := by rw [trip_snd, h]; rfl
  unfold carryOut
  simp only [htrip]
  rfl

/-- what the verdict that fails logs, and what it comes to -/
theorem judge_enforcing (hverify : made.verify = true) (read : ReadBack) :
    judge made read = (if read.data = payload then [verifiedRecord read] else [],
      (Probe.verify made.path payload read).mapError .probe) := by
  unfold judge
  rw [if_pos hverify]
  by_cases hdata : read.data = payload
  · rw [Probe.verify_eq_ok.2 hdata, if_pos hdata]
    rfl
  · rw [if_neg hdata]
    cases hread : Probe.verify made.path payload read with
    | ok _ => exact (hdata (Probe.verify_eq_ok.1 hread)).elim
    | error error => rfl

/-- the verdict that reports warns of what the other fails for -/
theorem judge_reporting (made : Plan) (read : ReadBack) :
    judge made.reporting read = (if read.data = payload then [] else [differsRecord read], .ok ()) := by
  unfold judge
  rw [if_neg (by simp [Plan.reporting])]
  by_cases hdata : read.data = payload
  · rw [if_pos (holds_iff.2 hdata), if_pos hdata]
  · rw [if_neg fun hholds => hdata (holds_iff.1 hholds), if_neg hdata]

/-- before the verdict nothing warns -/
theorem warnings_judged (made : Plan) (read : ReadBack) :
    (judged made read filter tree).warnings = (judge made read).1.filter fun record => record.level = .warn := by
  unfold Transcript.warnings judged
  simp [startingRecord, writtenRecord, readRecord]

/-- the exit status of the run that fails -/
theorem enforcing_status (honce : made.once = true) (hverify : made.verify = true)
    (h : tried made target = .done read) : (carryOut made target filter tree).outcome.exitStatus? =
      if read.data = payload then some 0 else if read.data.length = 15 then some 4 else some 3 := by
  split_ifs with hdata hlength
  · have hseen := carryOut_accepted filter tree h (judge_accepts fun _ => hdata)
    rw [if_pos honce] at hseen
    exact congrArg Prod.fst hseen
  · obtain ⟨offset, -, hrefused⟩ := @Probe.verify_of_data made.path payload read (by rwa [payload_length]) hdata
    exact congrArg Prod.fst (carryOut_refused filter tree h (judge_refuses hverify hrefused) (by simp))
  · have hrefused := @Probe.verify_of_length made.path payload read (by rwa [payload_length])
    exact congrArg Prod.fst (carryOut_refused filter tree h (judge_refuses hverify hrefused) (by simp))

/-- **Side by side**, what came back fails the one run exactly if the other warns of it. -/
theorem sameVerdict (honce : made.once = true) (hverify : made.verify = true) (h : tried made target = .done read) :
    SameVerdict (carryOut made target filter tree) (carryOut made.reporting target filter tree) read := by
  have htried : tried made.reporting target = .done read := h
  have hreporting : carryOut made.reporting target filter tree = judged made.reporting read filter tree := by
    rw [carryOut_done filter tree htried honce, judge_reporting]
  have hstatus := enforcing_status filter tree honce hverify h
  have hlength : read.data = payload → read.data.length = 15 := by
    intro hdata
    rw [hdata, payload_length]
  have hpasses : (carryOut made target filter tree).outcome.exitStatus? = some 0 ↔ read.data = payload := by
    rw [hstatus]
    split_ifs <;> simp [*]
  refine ⟨tried_requested h, by rw [hreporting]; rfl, ?_, ?_, ?_, hpasses, ?_⟩
  · rw [hreporting, warnings_judged, judge_reporting]
    simp only [hpasses]
    split_ifs <;> simp [differsRecord]
  · rw [hstatus]
    split_ifs with hdata hfull
    · simp [hlength hdata]
    · simp [hfull]
    · simp [hfull]
  · rw [hstatus]
    split_ifs with hdata hfull
    · simp
    · simp [hfull]
    · simp [hfull]
  · intro hzero
    have hdata := hpasses.1 hzero
    have hjudge : judge made read = ([verifiedRecord read], .ok ()) := by
      rw [judge_enforcing hverify, if_pos hdata, Probe.verify_eq_ok.2 hdata]
      rfl
    have henforcing : carryOut made target filter tree = judged made read filter tree := by
      rw [carryOut_done filter tree h honce, hjudge]
    rw [henforcing]
    refine ⟨?_, ?_⟩
    · unfold judged
      rw [hjudge]
      simp
    · rw [warnings_judged, hjudge]
      simp [verifiedRecord]

/-- the output does not depend on the verdict -/
theorem carryOut_output_done (honce : made.once = true) (h : tried made target = .done read) :
    (carryOut made target filter tree).output = writingLine made ++ readLine read := by
  rw [carryOut_done filter tree h honce, judge_eq]
  cases made.verify with
  | false => rfl
  | true => cases Probe.verify made.path payload read <;> rfl

/-! ## Whole runs -/

variable {site : Site} {device : Device} {before after : List String}

/-- the flag turns a plan that verifies into one that reports -/
theorem plan_reporting {request : Request} {settings : Settings} (h : plan request (.ok settings) = .ok made)
    (hverify : made.verify = true) : request.isRaised .noVerify = false ∧
      plan (request.raised .noVerify) (.ok settings) = .ok made.reporting := by
  obtain ⟨path, hpath, hcheck, rfl⟩ := plan_eq_ok h
  have hflag : request.noVerify = false := by simpa using (Bool.and_eq_true_iff.1 hverify).2
  refine ⟨hflag, ?_⟩
  unfold plan
  simp [Request.raised, hpath, hcheck, Plan.reporting]

/-- both runs carry out the plan under the same filter -/
theorem runOn_reporting (hplace : Between before) (hdevice : device.Unaware) (h : Makes site (before ++ after) made)
    (hverify : made.verify = true) :
    ∃ filter, runOn site device (before ++ after) = carryOut made (device.target made) filter (device.after made) ∧
      runOn site device (before ++ Flag.noVerify.name :: after) =
        carryOut made.reporting (device.target made) filter (device.after made) := by
  obtain ⟨request, settings, hparse, hload, hplan⟩ := h
  obtain ⟨hflag, hplanReporting⟩ := plan_reporting hplan hverify
  have hloaded : load site.tree site.directory site.home site.environment = .ofExcept (.ok settings) := hload
  refine ⟨Filter.inForce (site.environment "RUST_LOG") (logLevel request (.ok settings)), ?_, ?_⟩
  · rw [runOn_of_load device hparse hloaded, proceed_of_plan hplan]
  · rw [runOn_of_load device (parse_insert_flag hplace hparse hflag) hloaded, proceed_of_plan hplanReporting,
      hdevice.target, hdevice.after]
    rfl

theorem between_path : Between ["t"] := by
  intro progress h
  have hread : ["t"].foldlM take {} = .ok { pending := .path "t" } := by cbv
  rw [hread] at h
  cases h
  exact ⟨rfl, fun _ h => by cases h⟩

theorem staleDevice_unaware : staleDevice.Unaware := ⟨fun _ => rfl, fun _ => rfl⟩

end BlockProbe.Command
