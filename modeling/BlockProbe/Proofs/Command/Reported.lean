/-
One failure, reported once.

Every failure of a run goes through `Transcript.fail`, and nothing else complains of one or logs an error. So a run that
fails says so once on standard error and once in the log, in the same words and with the exit status it ends with, and a
run that does not fail says nothing of the kind.

- `failureRecord_tells`: what the record of a failure says.
- `Course`, `course_of_parse`: an accepted run fails once, after nothing but quiet records, or not at all.
- `accountsFor`: what a run reports of how it ends.
- `clean_of_vouches`: no run vouches for its target and reports a failure.
-/
import BlockProbe.Proofs.Command.LogLevel
import BlockProbe.Proofs.Command.Reporting

namespace BlockProbe.Command

open BlockProbe.Files (Attempt)
open BlockProbe.Log (Filter Record)
open BlockProbe.Probe (ReadBack Target payload)
open BlockProbe.Settings

/-- the error records of a run, shown or not -/
def Transcript.errors (run : Transcript) : List Record := run.records.filter fun record => record.level = .error

/-- records that neither report an error nor vouch for a target -/
def Quiet (records : List Record) : Prop :=
  ∀ record ∈ records, record.level ≠ .error ∧ record.message ≠ "Read-back verified"

/-- an error of the program without a field of its own -/
def bareError : Record := { level := .error, component := .cli, origin := .program, message := "", fields := [] }

/-- the failure comes from writing, flushing, opening, reading or verifying the target -/
def FromTarget (site : Site) (device : Device) (arguments : List String) (failure : Failure) : Prop :=
  ∃ made error, Makes site arguments made ∧ failure = .probe error ∧
    (tried made (device.target made) = .failed error ∨
      ∃ read, tried made (device.target made) = .done read ∧ made.verify = true ∧
        Probe.verify made.path payload read = .error error)

variable {site : Site} {device : Device} {arguments : List String} {request : Request} {failure : Failure}
  {record : Record} {records more : List Record} {filter : Filter} {made : Plan}

/-! ## Records -/

theorem Quiet.append (h : Quiet records) (hmore : Quiet more) : Quiet (records ++ more) := by
  intro record hmem
  rcases List.mem_append.1 hmem with hmem | hmem
  · exact h record hmem
  · exact hmore record hmem

theorem Quiet.errors (h : Quiet records) : (records.filter fun record => record.level = .error) = [] :=
  List.filter_eq_nil_iff.2 fun record hmem hlevel => (h record hmem).1 (of_decide_eq_true hlevel)

theorem Quiet.select (h : Quiet records) (filter : Filter) : Quiet (filter.select records) :=
  fun record hmem => h record (List.mem_filter.1 hmem).1

/-- the record of a failure is an error of the program and says what is printed and how the run exits -/
structure Tells (failure : Failure) (record : Record) : Prop where
  level : record.level = .error
  origin : record.origin = .program
  exitCode : record.fields.lookup "exit_code" = some (Log.number failure.exitStatus.toNat)
  error : record.fields.lookup "error" = some (.bare failure.message)
  unverified : record.message ≠ "Read-back verified"

theorem failureRecord_tells (h : failureRecord failure = some record) : Tells failure record := by
  cases failure with
  | usage => cases h
  | probe error => cases h; exact ⟨rfl, rfl, rfl, rfl, by simp⟩
  | settings error => cases h; exact ⟨rfl, rfl, rfl, rfl, by simp⟩
  | signals fault => cases h; exact ⟨rfl, rfl, rfl, rfl, by simp⟩
  | runtime fault => cases h; exact ⟨rfl, rfl, rfl, rfl, by simp⟩
  | join reason => cases h; exact ⟨rfl, rfl, rfl, rfl, by simp⟩

theorem failureRecord_isSome (h : failure ≠ .usage) : ∃ record, failureRecord failure = some record := by
  cases failure with
  | usage => exact (h rfl).elim
  | _ => exact ⟨_, rfl⟩

/-- a failure other than a missing path adds one complaint and one record -/
theorem fail_eq (before : Transcript) (husage : failure ≠ .usage) (hrecord : failureRecord failure = some record) :
    before.fail failure = { before with
      records := before.records ++ [record]
      complaints := before.complaints ++ ["Error: " ++ failure.message]
      outcome := .failed failure } := by
  unfold Transcript.fail
  rw [hrecord]
  cases failure with
  | usage => exact (husage rfl).elim
  | _ => rfl

/-- a failure adds its record, if it has one -/
theorem mem_fail_records {before : Transcript} :
    record ∈ (before.fail failure).records ↔ record ∈ before.records ∨ failureRecord failure = some record := by
  cases failure <;> simp [Transcript.fail, failureRecord, eq_comm]

/-- a filter that asks for no field does not look at any -/
theorem admits_of_plain (hplain : ∀ directive ∈ filter, directive.field = none) {first second : Record}
    (hlevel : first.level = second.level) (horigin : first.origin = second.origin) :
    filter.admits first = filter.admits second := by
  have hcovers : filter.filter (fun directive => directive.covers first) =
      filter.filter fun directive => directive.covers second := by
    refine List.filter_congr fun directive hmem => ?_
    unfold Log.Directive.covers
    rw [hplain directive hmem, horigin]
    rfl
  unfold Filter.admits Filter.deciding
  rw [hcovers, hlevel]

/-! ## The course of a run -/

theorem trip_quiet (made : Plan) (target : Target) : Quiet (trip made target).1 := by
  unfold trip
  cases Probe.writePayload made.path target.sink payload made.options with
  | failed error => simp [Quiet]
  | waits => simp [Quiet]
  | done _ =>
    dsimp only
    cases Probe.readBack made.path target.source payload.length <;> simp [Quiet, writtenRecord, readRecord]

theorem starting_quiet (made : Plan) (h : Quiet records) : Quiet (startingRecord made :: records) := by
  have hstarting : Quiet [startingRecord made] := by simp [Quiet, startingRecord]
  exact hstarting.append h

/-- no verdict is an error in the log -/
theorem judge_level (made : Plan) (read : ReadBack) : ∀ record ∈ (judge made read).1, record.level ≠ .error := by
  unfold judge
  split_ifs
  · cases Probe.verify made.path payload read <;> simp [verifiedRecord]
  · simp
  · simp [differsRecord]

/-- a verdict that fails the run logs nothing, and is about the target -/
theorem judge_error {read : ReadBack} (h : (judge made read).2 = .error failure) :
    (judge made read).1 = [] ∧ made.verify = true ∧
      ∃ error, failure = .probe error ∧ Probe.verify made.path payload read = .error error := by
  unfold judge at h ⊢
  split_ifs at h ⊢ with hverify hholds
  · cases hverdict : Probe.verify made.path payload read with
    | ok _ => rw [hverdict] at h; cases h
    | error error => rw [hverdict] at h; cases h; exact ⟨rfl, hverify, error, rfl, rfl⟩

/-- why an accepted run fails, and that it has said nothing where no path was given -/
inductive Cause (site : Site) (device : Device) (arguments : List String) (before : Transcript) : Failure → Prop
  | noPath (houtput : before.output = "") (hrecords : before.records = []) : Cause site device arguments before .usage
  | settings (error : LoadError) : Cause site device arguments before (.settings error)
  | target {failure : Failure} (h : FromTarget site device arguments failure) :
    Cause site device arguments before failure

/-- an accepted run does not fail and reports no error, or it fails once and was quiet until then -/
inductive Course (site : Site) (device : Device) (arguments : List String) : Transcript → Prop
  | clean {run : Transcript} (hcomplaints : run.complaints = [])
    (hrecords : ∀ record ∈ run.records, record.level ≠ .error)
    (houtcome : ∀ failure, run.outcome ≠ .failed failure) : Course site device arguments run
  | failing {before : Transcript} {failure : Failure} (hcomplaints : before.complaints = [])
    (hquiet : Quiet before.records) (hcause : Cause site device arguments before failure) :
    Course site device arguments (before.fail failure)

/-- what is seen of a plan before its round trip is over -/
def begun (made : Plan) (target : Target) (filter : Filter) (tree : Files.Tree) : Transcript where
  output := writingLine made
  records := startingRecord made :: (trip made target).1
  filter := filter
  tree := tree
  outcome := .waiting .probing

theorem carryOut_begun {target : Target} (filter : Filter) (tree : Files.Tree)
    (h : ∀ read, tried made target ≠ .done read) :
    carryOut made target filter tree =
      match tried made target with
      | .failed error => (begun made target filter tree).fail (.probe error)
      | _ => begun made target filter tree := by
  have htrip := trip_snd made target
  unfold carryOut
  cases htried : tried made target with
  | waits =>
    rw [htried] at htrip
    simp only [htrip, Attempt.mapError]
    rfl
  | failed error =>
    rw [htried] at htrip
    simp only [htrip, Attempt.mapError]
    rfl
  | done read => exact (h read htried).elim

/-- the course of a plan that is carried out -/
theorem carryOut_course (hmade : Makes site arguments made) (filter : Filter) (tree : Files.Tree) :
    Course site device arguments (carryOut made (device.target made) filter tree) := by
  have hbegun : Quiet (startingRecord made :: (trip made (device.target made)).1) :=
    starting_quiet made (trip_quiet made _)
  cases htried : tried made (device.target made) with
  | waits =>
    rw [carryOut_begun filter tree (by simp [htried]), htried]
    exact .clean rfl (fun record hmem => (hbegun record hmem).1) (fun _ h => by cases h)
  | failed error =>
    rw [carryOut_begun filter tree (by simp [htried]), htried]
    exact .failing rfl hbegun (.target ⟨made, error, hmade, rfl, .inl htried⟩)
  | done read =>
    have hread : Quiet [startingRecord made, writtenRecord made, readRecord read] := by
      simp [Quiet, startingRecord, writtenRecord, readRecord]
    rw [carryOut_read filter tree htried]
    cases hverdict : (judge made read).2 with
    | error failure =>
      obtain ⟨hnone, hverify, error, rfl, hrefused⟩ := judge_error hverdict
      refine .failing rfl ?_ (.target ⟨made, error, hmade, rfl, .inr ⟨read, htried, hverify, hrefused⟩⟩)
      show Quiet ([startingRecord made, writtenRecord made, readRecord read] ++ (judge made read).1)
      rwa [hnone, List.append_nil]
    | ok _ =>
      have hlevel : ∀ record ∈ (judged made read filter tree).records, record.level ≠ .error := by
        intro record hmem
        rcases List.mem_append.1
          (show record ∈ [startingRecord made, writtenRecord made, readRecord read] ++ (judge made read).1 from hmem)
          with hmem | hmem
        · exact (hread record hmem).1
        · exact judge_level made read record hmem
      dsimp only
      cases made.once with
      | true => exact .clean rfl hlevel (fun _ h => by cases h)
      | false => exact .clean rfl hlevel (fun _ h => by cases h)

/-- why there is no plan -/
theorem plan_error_cases {loaded : Except LoadError Settings} (h : plan request loaded = .error failure) :
    failure = .usage ∨ ∃ error, failure = .settings error := by
  by_cases hpath : request.path = none
  · rw [plan_of_no_path hpath] at h
    cases h
    exact .inl rfl
  cases loaded with
  | error error =>
    rw [plan_of_error hpath] at h
    cases h
    exact .inr ⟨_, rfl⟩
  | ok settings =>
    cases hcheck : (withInterval settings request.interval).check with
    | error reason =>
      rw [plan_of_check hpath hcheck] at h
      cases h
      exact .inr ⟨_, rfl⟩
    | ok _ =>
      obtain ⟨made, hmade⟩ := plan_of_passed hpath hcheck
      rw [hmade] at h
      cases h

/-- **An accepted run fails once**, after nothing but quiet records, or it does not fail and reports no error. -/
theorem course_of_parse (hparse : parse arguments = .ok request) :
    Course site device arguments (runOn site device arguments) := by
  by_cases hwaits : load site.tree site.directory site.home site.environment = .waits
  · unfold runOn
    simp only [hparse, hwaits]
    exact .clean rfl (fun _ h => by cases h) (fun _ h => by cases h)
  · obtain ⟨loaded, hload⟩ := Attempt.ofExcept_of_not_waits hwaits
    rw [runOn_of_load device hparse hload]
    cases hplan : plan request loaded with
    | error failure =>
      rw [proceed_of_failure hplan]
      rcases plan_error_cases hplan with rfl | ⟨error, rfl⟩
      · exact .failing rfl (fun _ h => by cases h) (.noPath rfl rfl)
      · exact .failing rfl (fun _ h => by cases h) (.settings error)
    | ok made =>
      obtain ⟨settings, rfl⟩ := loaded_of_plan hplan
      rw [proceed_of_plan hplan]
      exact carryOut_course ⟨request, settings, hparse, hload, hplan⟩ _ _

/-! ## What is reported -/

/-- a run says of a failure one thing on standard error and one in the log, and they agree -/
structure Says (run : Transcript) (failure : Failure) (record : Record) : Prop where
  status : run.outcome.exitStatus? = some failure.exitStatus
  complaints : run.complaints = ["Error: " ++ failure.message]
  errors : run.errors = [record]
  tells : Tells failure record
  shown : record ∈ run.log ↔ run.filter.admits record = true
  /-- where no directive asks for a field, the filter decides on the program's errors alike -/
  plainly : (∀ directive ∈ run.filter, directive.field = none) → (record ∈ run.log ↔ run.filter.admits bareError = true)

/-- what an accepted run reports of how it ends -/
structure AccountsFor (site : Site) (device : Device) (arguments : List String) (request : Request) : Prop where
  failure : ∀ failure, (runOn site device arguments).outcome = .failed failure → failure ≠ .usage →
    ∃ record, Says (runOn site device arguments) failure record ∧
      (record.message = "Probe failed" ∧ record.fields.lookup "path" = request.path.map .bare ↔
        FromTarget site device arguments failure) ∧
      (¬ FromTarget site device arguments failure → record.message = "Aborting")
  filter : ∀ loaded, load site.tree site.directory site.home site.environment = .ofExcept loaded →
    (runOn site device arguments).filter = Filter.inForce (site.environment "RUST_LOG") (logLevel request loaded)
  usage : (runOn site device arguments).outcome = .failed .usage →
    (runOn site device arguments).output = usageLine ++ "\n" ∧ (runOn site device arguments).complaints = [] ∧
      (runOn site device arguments).records = []
  success : (runOn site device arguments).outcome.exitStatus? = some 0 →
    (runOn site device arguments).complaints = [] ∧ (runOn site device arguments).errors = []

theorem exitStatus_ne_zero (failure : Failure) : failure.exitStatus ≠ 0 := by
  cases failure with
  | usage => decide
  | probe error =>
    unfold Failure.exitStatus
    dsimp only
    cases error.failure.kind <;> decide
  | settings error => exact fun h => by cases h
  | signals fault => exact fun h => by cases h
  | runtime fault => exact fun h => by cases h
  | join reason => exact fun h => by cases h

/-- a record that is logged is shown if the filter admits it -/
theorem mem_log_iff {run : Transcript} (h : record ∈ run.records) :
    record ∈ run.log ↔ run.filter.admits record = true := by
  unfold Transcript.log Filter.select
  rw [List.mem_filter]
  exact and_iff_right h

/-- **A failure is said once** where nothing else was said before it. -/
theorem fail_says {before : Transcript} (hcomplaints : before.complaints = []) (hquiet : Quiet before.records)
    (husage : failure ≠ .usage) (hrecord : failureRecord failure = some record) :
    Says (before.fail failure) failure record := by
  have htells := failureRecord_tells hrecord
  have hmem : record ∈ (before.fail failure).records := mem_fail_records.2 (.inr hrecord)
  refine ⟨by rw [fail_outcome]; rfl, ?_, ?_, htells, mem_log_iff hmem, fun hplain => ?_⟩
  · simp [fail_eq before husage hrecord, hcomplaints]
  · have herrors := hquiet.errors
    simp [Transcript.errors, fail_eq before husage hrecord, List.filter_append, herrors, htells.level]
  · have hlevel : record.level = bareError.level := htells.level
    rw [mem_log_iff hmem, admits_of_plain hplain hlevel htells.origin]

/-- the path in the record of a failing target is the one on the command line -/
theorem path_of_fromTarget (hparse : parse arguments = .ok request) {error : Probe.Error}
    (h : FromTarget site device arguments (.probe error)) : request.path = some error.path := by
  obtain ⟨made, error, ⟨other, settings, hother, -, hplan⟩, herror, hcause⟩ := h
  cases herror
  cases hparse.symm.trans hother
  obtain ⟨path, hpath, -, rfl⟩ := plan_eq_ok hplan
  rcases hcause with hfailed | ⟨read, -, -, hverdict⟩
  · obtain ⟨call, fault, rfl⟩ := Probe.roundTrip_failed hfailed
    exact hpath
  · rw [(Probe.verify_error hverdict).1]
    exact hpath

/-- the record of a failure that an accepted run comes to -/
theorem Cause.named {before : Transcript} (hparse : parse arguments = .ok request)
    (hcause : Cause site device arguments before failure) (hrecord : failureRecord failure = some record) :
    (record.message = "Probe failed" ∧ record.fields.lookup "path" = request.path.map .bare ↔
      FromTarget site device arguments failure) ∧
    (¬ FromTarget site device arguments failure → record.message = "Aborting") := by
  cases hcause with
  | noPath _ _ => cases hrecord
  | settings error =>
    have hother : ¬ FromTarget site device arguments (.settings error) := by
      rintro ⟨_, _, -, herror, -⟩
      cases herror
    cases hrecord
    exact ⟨⟨fun h => absurd h.1 (by simp), fun h => (hother h).elim⟩, fun _ => rfl⟩
  | target htarget =>
    obtain ⟨made, error, -, rfl, -⟩ := id htarget
    cases hrecord
    have hpath := path_of_fromTarget hparse htarget
    exact ⟨⟨fun _ => htarget, fun _ => ⟨rfl, by rw [hpath]; rfl⟩⟩, fun hother => (hother htarget).elim⟩

/-- an accepted run without a path prints how it is used, and that is all -/
theorem Course.usage {run : Transcript} (h : Course site device arguments run)
    (houtcome : run.outcome = .failed .usage) :
    run.output = usageLine ++ "\n" ∧ run.complaints = [] ∧ run.records = [] := by
  cases h with
  | clean _ _ hnone => exact (hnone _ houtcome).elim
  | @failing before failure hcomplaints hquiet hcause =>
    rw [fail_outcome] at houtcome
    cases houtcome
    cases hcause with
    | noPath houtput hrecords =>
      refine ⟨?_, hcomplaints, hrecords⟩
      show before.output ++ usageLine ++ "\n" = _
      rw [houtput, String.empty_append]
    | target htarget =>
      obtain ⟨_, _, -, herror, -⟩ := htarget
      cases herror

/-- an accepted run that does not fail reports no error -/
theorem Course.clean_of_not_failed {run : Transcript} (h : Course site device arguments run)
    (hnone : ∀ failure, run.outcome ≠ .failed failure) : run.complaints = [] ∧ run.errors = [] := by
  cases h with
  | clean hcomplaints hrecords _ =>
    exact ⟨hcomplaints, List.filter_eq_nil_iff.2 fun record hmem hlevel =>
      hrecords record hmem (of_decide_eq_true hlevel)⟩
  | failing _ _ _ => exact (hnone _ (fail_outcome _ _)).elim

/-- **What an accepted run reports.** -/
theorem accountsFor (site : Site) (device : Device) (hparse : parse arguments = .ok request) :
    AccountsFor site device arguments request := by
  have hcourse := @course_of_parse site device arguments request hparse
  refine ⟨?_, ?_, hcourse.usage, ?_⟩
  · intro failure houtcome husage
    generalize runOn site device arguments = run at hcourse houtcome ⊢
    cases hcourse with
    | clean _ _ hnone => exact (hnone failure houtcome).elim
    | failing hcomplaints hquiet hcause =>
      rw [fail_outcome] at houtcome
      cases houtcome
      obtain ⟨record, hrecord⟩ := failureRecord_isSome husage
      exact ⟨record, fail_says hcomplaints hquiet husage hrecord, hcause.named hparse hrecord⟩
  · intro loaded hload
    rw [runOn_of_load device hparse hload, proceed_filter]
  · intro hzero
    refine hcourse.clean_of_not_failed fun failure houtcome => ?_
    rw [houtcome] at hzero
    exact exitStatus_ne_zero failure (Option.some.inj hzero)

/-! ## Not both -/

/-- the run vouches for its target -/
def Transcript.Vouches (run : Transcript) : Prop := ∃ record ∈ run.records, record.message = "Read-back verified"

/-- **No run vouches for its target and reports an error**, whatever it is asked to do. -/
theorem clean_of_vouches (h : (runOn site device arguments).Vouches) :
    (runOn site device arguments).complaints = [] ∧ (runOn site device arguments).errors = [] := by
  obtain ⟨record, hmem, hmessage⟩ := h
  cases hparse : parse arguments with
  | error stop =>
    rw [runOn_of_stop device hparse] at hmem
    cases stop <;> cases hmem
  | ok request =>
    have hcourse := @course_of_parse site device arguments request hparse
    refine hcourse.clean_of_not_failed fun failure houtcome => ?_
    generalize runOn site device arguments = run at hcourse hmem houtcome
    cases hcourse with
    | clean _ _ hnone => exact hnone failure houtcome
    | failing _ hquiet _ =>
      rcases mem_fail_records.1 hmem with hbefore | hrecord
      · exact (hquiet record hbefore).2 hmessage
      · exact (failureRecord_tells hrecord).unverified hmessage

theorem leaving_quiet (signal : Signal) (stage : Stage) :
    Quiet (requestedRecord signal :: (leavingRecord signal stage).toList) := by
  cases stage <;> simp [Quiet, requestedRecord, leavingRecord]

/-- nor does a run that a signal takes out of its stage -/
theorem clean_of_interrupt_vouches (signal : Signal) (h : (interrupt signal (runOn site device arguments)).Vouches) :
    (interrupt signal (runOn site device arguments)).complaints = [] ∧
      (interrupt signal (runOn site device arguments)).errors = [] := by
  have hclean := @clean_of_vouches site device arguments
  unfold interrupt at h ⊢
  generalize runOn site device arguments = run at hclean h ⊢
  cases houtcome : run.outcome with
  | waiting stage =>
    simp only [houtcome] at h ⊢
    obtain ⟨record, hmem, hmessage⟩ := h
    rcases List.mem_append.1 hmem with hbefore | hadded
    · obtain ⟨hcomplaints, herrors⟩ := hclean ⟨record, hbefore, hmessage⟩
      refine ⟨hcomplaints, ?_⟩
      unfold Transcript.errors at herrors ⊢
      rw [List.filter_append, herrors, (leaving_quiet signal stage).errors]
      rfl
    · exact ((leaving_quiet signal stage record hadded).2 hmessage).elim
  | _ =>
    simp only [houtcome] at h ⊢
    exact hclean h

end BlockProbe.Command
