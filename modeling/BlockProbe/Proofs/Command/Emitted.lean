/-
What has been reported at every moment of a run with signals.

The listener and the worker log nothing but quiet records, and the main flow fails only as its last move. So whatever
was delivered and in whatever order the parties went on, what stands on standard error and what errors are in the log
follow from where the main flow is.

- `Reports`, `reports_step`: what has been reported, by where the main flow is; every move keeps it.
- `Reached.emits`: what follows at any moment of any interleaving.
- `reported_once`: a run alone, and a run with signals.
-/
import BlockProbe.Proofs.Command.Interrupted
import BlockProbe.Proofs.Command.Reported

namespace BlockProbe.Command.Shutdown

open BlockProbe.Files (Attempt)
open BlockProbe.Log (Filter Record)
open BlockProbe.Settings

/-- the failure that the main flow has ended with -/
def Flow.failure? : Flow → Option Failure
  | .ended (.failed failure) => some failure
  | _ => none

/-- may the main flow have vouched for its target? -/
def Flow.mayVouch : Flow → Bool
  | .idle _ => true
  | .left _ _ => true
  | .ended .finished => true
  | _ => false

/-- has the main flow its verdict still before it? -/
def Flow.isPending : Flow → Bool
  | .idle _ => false
  | .left _ _ => false
  | .ended _ => false
  | _ => true

/-- what a failure says on standard error -/
def complaintsOf : Failure → List String
  | .usage => []
  | other => ["Error: " ++ other.message]

/-- the error records that are shown -/
def State.errors (state : State) : List Record := state.log.filter fun record => record.level = .error

/-- what has been reported, by where the main flow is; arguments that are refused are complained of in other words -/
structure Reports (state : State) : Prop where
  complaints : state.flow ≠ .ended .refused → state.complaints = (state.flow.failure?.map complaintsOf).getD []
  errors : state.errors = state.filter.select (state.flow.failure?.bind failureRecord).toList
  unverified : state.flow.mayVouch = false → ∀ record ∈ state.log, record.message ≠ "Read-back verified"

/-- only quiet records are added -/
structure Adds (before after : State) : Prop where
  flow : after.flow = before.flow
  complaints : after.complaints = before.complaints
  filter : after.filter = before.filter
  log : ∃ records, Quiet records ∧ after.log = before.log ++ records

variable {site : Site} {arguments : List String} {state after : State} {records : List Record} {failure : Failure}

/-! ## The listener and the worker -/

theorem Adds.of_log (hflow : after.flow = state.flow) (hcomplaints : after.complaints = state.complaints)
    (hfilter : after.filter = state.filter) (hlog : after.log = state.log) : Adds state after :=
  ⟨hflow, hcomplaints, hfilter, [], fun _ h => (List.not_mem_nil h).elim, by rw [hlog, List.append_nil]⟩

theorem Adds.note (h : Adds state after) (hlog : after.log = state.log) (hquiet : Quiet records) :
    Adds state (Shutdown.note after records) :=
  ⟨h.flow, h.complaints, h.filter, after.filter.select records, hquiet.select _, by rw [← hlog]; rfl⟩

theorem listen_adds (state : State) (signal : Signal) : Adds state (listen state signal) := by
  have hrequested (signal : Signal) : Quiet [requestedRecord signal] := by simp [Quiet, requestedRecord]
  have hunobserved : Quiet [unobservedRecord] := by simp [Quiet, unobservedRecord]
  unfold listen
  cases state.listener with
  | waiting => dsimp only; split_ifs <;> exact .of_log rfl rfl rfl rfl
  | woken heard => exact .of_log rfl rfl rfl rfl
  | announced heard => exact .note (.of_log rfl rfl rfl rfl) rfl (hrequested heard)
  | logged heard =>
    dsimp only [send]
    split_ifs
    · exact .note (.of_log rfl rfl rfl rfl) rfl hunobserved
    · exact .of_log rfl rfl rfl rfl
  | sent heard => exact .of_log rfl rfl rfl rfl
  | gone heard => exact .of_log rfl rfl rfl rfl

theorem work_adds (site : Site) (state : State) (count : Nat) : Adds state (work site state count) := by
  have hwritten (plan : Plan) : Quiet [writtenRecord plan] := by simp [Quiet, writtenRecord]
  have hread (read : Probe.ReadBack) : Quiet [readRecord read] := by simp [Quiet, readRecord]
  unfold work
  cases state.worker with
  | resting => exact .of_log rfl rfl rfl rfl
  | hasSettings loaded => exact .of_log rfl rfl rfl rfl
  | finished outcome => exact .of_log rfl rfl rfl rfl
  | reading =>
    dsimp only
    cases load state.tree site.directory site.home site.environment <;> exact .of_log rfl rfl rfl rfl
  | starting plan =>
    dsimp only [openTarget]
    split <;> exact .of_log rfl rfl rfl rfl
  | writing plan location written =>
    dsimp only [complete]
    split_ifs
    · exact .of_log rfl rfl rfl rfl
    · split
      · exact .of_log rfl rfl rfl rfl
      · exact .of_log rfl rfl rfl rfl
      · exact .note (.of_log rfl rfl rfl rfl) rfl (hwritten plan)
  | written plan =>
    dsimp only [readBack]
    split
    · exact .of_log rfl rfl rfl rfl
    · exact .of_log rfl rfl rfl rfl
    · exact .note (.of_log rfl rfl rfl rfl) rfl (hread _)

/-- quiet records change nothing of what has been reported -/
theorem Reports.adds (h : Reports state) (hadds : Adds state after) : Reports after := by
  obtain ⟨hflow, hcomplaints, hfilter, records, hquiet, hlog⟩ := hadds
  refine ⟨?_, ?_, ?_⟩
  · rw [hflow, hcomplaints]
    exact h.complaints
  · have herrors := h.errors
    unfold State.errors at herrors ⊢
    rw [hflow, hfilter, hlog, List.filter_append, hquiet.errors, List.append_nil, herrors]
  · rw [hflow, hlog]
    intro hnot record hmem
    rcases List.mem_append.1 hmem with hbefore | hadded
    · exact h.unverified hnot record hbefore
    · exact (hquiet record hadded).2

/-! ## The main flow -/

/-- what has been reported where the main flow is -/
theorem Reports.standing (h : Reports state) {flow : Flow} (hflow : state.flow = flow)
    (hother : flow ≠ .ended .refused) : state.complaints = (flow.failure?.map complaintsOf).getD [] ∧
      state.errors = state.filter.select (flow.failure?.bind failureRecord).toList := by
  subst hflow
  exact ⟨h.complaints hother, h.errors⟩

/-- a run with signals that has not failed reports no error -/
theorem Reports.clean (h : Reports state) (hfailure : state.flow.failure? = none)
    (hrefused : state.flow ≠ .ended .refused) : state.complaints = [] ∧ state.errors = [] := by
  obtain ⟨hcomplaints, herrors, -⟩ := h
  have hnone := hcomplaints hrefused
  rw [hfailure] at hnone herrors
  exact ⟨hnone, herrors⟩

/-- before the verdict nothing is reported -/
theorem Reports.quiet (h : Reports state) {flow : Flow} (hflow : state.flow = flow) (hpending : flow.isPending = true) :
    state.complaints = [] ∧ Quiet state.log := by
  have hnone : flow.failure? = none ∧ flow.mayVouch = false ∧ flow ≠ .ended .refused := by
    cases flow with
    | idle _ => cases hpending
    | left _ _ => cases hpending
    | ended _ => cases hpending
    | _ => exact ⟨rfl, rfl, by simp⟩
  subst hflow
  obtain ⟨hcomplaints, herrors⟩ := h.clean hnone.1 hnone.2.2
  refine ⟨hcomplaints, fun record hmem => ⟨fun hlevel => ?_, h.unverified hnone.2.1 record hmem⟩⟩
  exact List.filter_eq_nil_iff.1 herrors record hmem (decide_eq_true hlevel)

/-- where nothing was reported, nothing is to be -/
theorem reports_of_clean (hcomplaints : state.complaints = []) (herrors : state.errors = [])
    (hfailure : state.flow.failure? = none)
    (hunverified : state.flow.mayVouch = false → ∀ record ∈ state.log, record.message ≠ "Read-back verified") :
    Reports state := by
  refine ⟨fun _ => ?_, ?_, hunverified⟩
  · rw [hfailure]
    exact hcomplaints
  · rw [hfailure]
    exact herrors

theorem reports_of_quiet (hcomplaints : state.complaints = []) (hquiet : Quiet state.log)
    (hfailure : state.flow.failure? = none) : Reports state :=
  reports_of_clean hcomplaints hquiet.errors hfailure fun _ record hmem => (hquiet record hmem).2

/-- a failure other than a missing path ends the main flow with one complaint and one record -/
theorem fail_noted (state : State) (husage : failure ≠ .usage) {record : Record}
    (hrecord : failureRecord failure = some record) :
    fail state failure = note { state with
      flow := .ended (.failed failure)
      complaints := state.complaints ++ complaintsOf failure } [record] := by
  unfold fail
  rw [hrecord]
  cases failure with
  | usage => exact (husage rfl).elim
  | _ => rfl

/-- **A failure is reported once** where nothing was reported before. -/
theorem reports_fail (hcomplaints : state.complaints = []) (hquiet : Quiet state.log) (failure : Failure) :
    Reports (fail state failure) := by
  by_cases husage : failure = .usage
  · subst husage
    exact ⟨fun _ => hcomplaints, hquiet.errors, fun _ record hmem => (hquiet record hmem).2⟩
  · obtain ⟨record, hrecord⟩ := failureRecord_isSome husage
    have htells := failureRecord_tells hrecord
    have hmem : ∀ shown ∈ state.filter.select [record], shown = record := fun shown hshown =>
      List.mem_singleton.1 (List.mem_filter.1 hshown).1
    rw [fail_noted state husage hrecord]
    refine ⟨fun _ => ?_, ?_, ?_⟩
    · show state.complaints ++ complaintsOf failure = complaintsOf failure
      rw [hcomplaints, List.nil_append]
    · show (state.log ++ state.filter.select [record]).filter _ =
        state.filter.select (failureRecord failure).toList
      rw [List.filter_append, hquiet.errors, List.nil_append, hrecord]
      exact List.filter_eq_self.2 fun shown hshown => decide_eq_true (hmem shown hshown ▸ htells.level)
    · intro _ shown hshown
      rcases List.mem_append.1 hshown with hbefore | hadded
      · exact (hquiet shown hbefore).2
      · exact hmem shown hadded ▸ htells.unverified

/-- a heartbeat reports nothing -/
theorem reports_beat (hcomplaints : state.complaints = []) (herrors : state.errors = []) (plan : Plan) :
    Reports (beat state plan) := reports_of_clean hcomplaints herrors rfl fun h => by cases h

theorem reports_accept (hcomplaints : state.complaints = []) (hquiet : Quiet state.log) (arguments : List String) :
    Reports (accept state arguments) := by
  unfold accept
  cases parse arguments with
  | error stop =>
    cases stop with
    | help => exact reports_of_quiet hcomplaints hquiet rfl
    | version => exact reports_of_quiet hcomplaints hquiet rfl
    | refused refusal =>
      exact ⟨fun hother => (hother rfl).elim, hquiet.errors, fun _ record hmem => (hquiet record hmem).2⟩
  | ok request => exact reports_of_quiet hcomplaints hquiet rfl

theorem reports_prepare (hcomplaints : state.complaints = []) (hquiet : Quiet state.log) (request : Request)
    (loaded : Except LoadError Settings) : Reports (prepare state request loaded) := by
  unfold prepare
  cases plan request loaded with
  | error failure => exact reports_fail hcomplaints hquiet failure
  | ok made =>
    have hstarting : Quiet [startingRecord made] := by simp [Quiet, startingRecord]
    exact reports_of_quiet hcomplaints (hquiet.append (hstarting.select _)) rfl

/-- the verdict vouches for the target or fails the run, and does not do both -/
theorem reports_conclude (hcomplaints : state.complaints = []) (hquiet : Quiet state.log) (made : Plan)
    (read : Probe.ReadBack) : Reports (conclude state made read) := by
  have hlevel : (note state (judge made read).1).errors = [] := by
    refine List.filter_eq_nil_iff.2 fun record hmem hlevel => ?_
    rcases List.mem_append.1 hmem with hbefore | hadded
    · exact (hquiet record hbefore).1 (of_decide_eq_true hlevel)
    · exact judge_level made read record (List.mem_filter.1 hadded).1 (of_decide_eq_true hlevel)
  unfold conclude
  cases hverdict : (judge made read).2 with
  | error failure =>
    obtain ⟨hrecords, -, -⟩ := judge_error hverdict
    have hjudged : Quiet (note state (judge made read).1).log := by
      rw [hrecords]
      exact hquiet.append fun _ hmem => (List.not_mem_nil hmem).elim
    simp only [hverdict]
    exact @reports_fail (note state (judge made read).1) hcomplaints hjudged failure
  | ok _ =>
    simp only [hverdict]
    split_ifs
    · exact reports_of_clean hcomplaints hlevel rfl fun h => by cases h
    · exact @reports_beat (note state (judge made read).1) hcomplaints hlevel made

/-- the main flow goes on, wherever it is -/
theorem Reports.advance (h : Reports state) (site : Site) : Reports (advance site state) := by
  unfold Shutdown.advance
  -- wherever the verdict is still to come nothing was reported, so the next move may fail
  cases hflow : state.flow with
  | parsing arguments =>
    obtain ⟨hcomplaints, hlog⟩ := h.quiet hflow rfl
    exact reports_accept hcomplaints hlog arguments
  | loading request =>
    obtain ⟨hcomplaints, hlog⟩ := h.quiet hflow rfl
    cases state.worker with
    | hasSettings loaded => exact reports_of_quiet hcomplaints hlog rfl
    | _ => exact h
  | starting request loaded =>
    obtain ⟨hcomplaints, hlog⟩ := h.quiet hflow rfl
    exact reports_prepare hcomplaints hlog request loaded
  | entering made =>
    obtain ⟨hcomplaints, hlog⟩ := h.quiet hflow rfl
    exact reports_of_quiet hcomplaints hlog rfl
  | probing made =>
    obtain ⟨hcomplaints, hlog⟩ := h.quiet hflow rfl
    cases state.worker with
    | finished outcome =>
      cases outcome with
      | error failure => exact @reports_fail { state with worker := .resting } hcomplaints hlog failure
      | ok read => exact reports_of_quiet hcomplaints hlog rfl
    | _ => exact h
  | judging made read =>
    obtain ⟨hcomplaints, hlog⟩ := h.quiet hflow rfl
    exact reports_conclude hcomplaints hlog made read
  | idle made =>
    obtain ⟨hcomplaints, herrors⟩ := h.standing hflow (by simp)
    exact reports_beat hcomplaints herrors made
  | left stage signal => exact h
  | ended outcome => exact h

/-- the main flow has failed in no stage that it leaves -/
theorem Reports.look (h : Reports state) : Reports (look state) := by
  have hleaving (signal : Signal) (stage : Stage) : Quiet (leavingRecord signal stage).toList := fun record hmem =>
    leaving_quiet signal stage record (List.mem_cons_of_mem _ hmem)
  unfold Shutdown.look
  cases hstage : state.flow.stage? with
  | none => exact h
  | some stage =>
    have hwaits : state.flow.failure? = none ∧ state.flow ≠ .ended .refused := by
      cases hflow : state.flow with
      | ended outcome => rw [hflow] at hstage; cases hstage
      | _ => exact ⟨rfl, by simp⟩
    obtain ⟨hcomplaints, herrors⟩ := h.clean hwaits.1 hwaits.2
    obtain ⟨receiver, seen⟩ := state.channel.look state.receiver
    cases seen with
    | again => exact ⟨h.complaints, h.errors, h.unverified⟩
    | pending => exact ⟨h.complaints, h.errors, h.unverified⟩
    | ready signal =>
      refine reports_of_clean hcomplaints ?_ rfl fun h => by cases h
      show (state.log ++ state.filter.select (leavingRecord signal stage).toList).filter _ = []
      rw [List.filter_append, ((hleaving signal stage).select _).errors, List.append_nil]
      exact herrors

/-! ## Any moves -/

/-- **Every move keeps the reports what they are to be.** -/
theorem reports_step (state : State) (move : Move) (h : Reports state) : Reports (step site state move) := by
  cases move with
  | deliver signal => exact ⟨h.complaints, h.errors, h.unverified⟩
  | listen signal => exact h.adds (listen_adds state signal)
  | work count => exact h.adds (work_adds site state count)
  | advance => exact h.advance site
  | look => exact h.look

theorem Reached.reports (h : Reached site arguments state) : Reports state := by
  obtain ⟨moves, rfl⟩ := h
  have hstart : Reports (start site arguments) := reports_of_quiet rfl (fun _ hmem => (List.not_mem_nil hmem).elim) rfl
  exact moves_keep reports_step hstart moves

/-- what is reported at any moment of a run with signals -/
structure Emits (state : State) : Prop where
  failure : ∀ failure, state.flow = .ended (.failed failure) → failure ≠ .usage →
    ∃ record, Tells failure record ∧ state.exitStatus? = some failure.exitStatus ∧
      state.complaints = ["Error: " ++ failure.message] ∧ state.errors = state.filter.select [record]
  usage : state.flow = .ended (.failed .usage) → state.complaints = [] ∧ state.errors = []
  success : state.exitStatus? = some 0 → state.complaints = [] ∧ state.errors = []
  vouched : (∃ record ∈ state.log, record.message = "Read-back verified") → state.complaints = [] ∧ state.errors = []

theorem Reached.emits (h : Reached site arguments state) : Emits state := by
  have hreports := h.reports
  refine ⟨?_, ?_, ?_, ?_⟩
  · intro failure hflow husage
    obtain ⟨record, hrecord⟩ := failureRecord_isSome husage
    obtain ⟨hcomplaints, herrors⟩ := hreports.standing hflow (by simp)
    refine ⟨record, failureRecord_tells hrecord, ?_, ?_, ?_⟩
    · unfold State.exitStatus?
      rw [hflow]
      rfl
    · rw [hcomplaints]
      cases failure with
      | usage => exact (husage rfl).elim
      | _ => rfl
    · rw [herrors]
      show state.filter.select (failureRecord failure).toList = _
      rw [hrecord]
      rfl
  · intro hflow
    exact hreports.standing hflow (by simp)
  · intro hzero
    unfold State.exitStatus? at hzero
    cases hflow : state.flow with
    | ended outcome =>
      rw [hflow] at hzero
      cases outcome with
      | failed failure => exact (exitStatus_ne_zero failure (Option.some.inj hzero)).elim
      | refused => cases hzero
      | waiting stage => cases hzero
      | _ => exact hreports.clean (by rw [hflow]; rfl) (by simp [hflow])
    | _ => exact hreports.clean (by rw [hflow]; rfl) (by simp [hflow])
  · rintro ⟨record, hmem, hmessage⟩
    have hvouch : state.flow.mayVouch = true := by
      by_contra hnot
      exact hreports.unverified (Bool.not_eq_true _ ▸ hnot) record hmem hmessage
    refine hreports.clean ?_ ?_
    · cases hflow : state.flow with
      | ended outcome =>
        cases outcome with
        | failed failure => rw [hflow] at hvouch; cases hvouch
        | _ => rfl
      | _ => rfl
    · intro hflow
      rw [hflow] at hvouch
      cases hvouch

/-- **One failure, reported once.** A run whose arguments are accepted and that fails for another reason than a missing
path has one text on standard error and one error in the log, shown if the filter admits it; the text, the record and
the exit status are those of the failure, and the record names the path exactly if the target failed. A missing path
only prints how the program is used, and a run that exits with zero reports no error. No run vouches for its target and
reports an error, and all of this holds with signals too, whatever the order in which the parties go on. -/
theorem reported_once :
    (∀ (site : Site) (device : Device) (arguments : List String) (request : Request),
      parse arguments = .ok request → AccountsFor site device arguments request) ∧
    (∀ (site : Site) (device : Device) (arguments : List String) (run : Transcript),
      run = runOn site device arguments ∨ (∃ signal, run = interrupt signal (runOn site device arguments)) →
      run.Vouches → run.complaints = [] ∧ run.errors = []) ∧
    (∀ (site : Site) (arguments : List String) (state : State), Reached site arguments state → Emits state) := by
  refine ⟨fun site device arguments request hparse => accountsFor site device hparse, ?_,
    fun site arguments state hreached => hreached.emits⟩
  rintro site device arguments run (rfl | ⟨signal, rfl⟩) hvouches
  · exact clean_of_vouches hvouches
  · exact clean_of_interrupt_vouches signal hvouches

/-! The target that returns other bytes, and a run that a signal ends while it writes. -/

def staleError : Probe.Error := { path := "t", failure := .mismatch 9 }

theorem staleDevice_fails :
    (runOn bareSite staleDevice ["t", "--once"]).outcome = .failed (.probe staleError) := by
  obtain ⟨filter, hrun⟩ := @runOn_of_makes barePlan bareSite staleDevice ["t", "--once"] bareSite_makes
  have hjudge : (judge barePlan staleRead).2 = .error (.probe staleError) := by cbv
  rw [hrun, carryOut_read filter _ (staleDevice_tried barePlan), hjudge]
  rfl

/-- the sample's run says once, in the log and beside it, that the target differs, and does not vouch for it; the other
one exits with zero and has reported nothing -/
theorem stale_reported_once :
    (parse ["t", "--once"] = .ok { path := some "t", once := true } ∧
      FromTarget bareSite staleDevice ["t", "--once"] (.probe staleError)) ∧
    (runOn bareSite staleDevice ["t", "--once"]).complaints =
      ["Error: content read from t differs from payload at byte 9"] ∧
    (∃ record, (runOn bareSite staleDevice ["t", "--once"]).errors = [record] ∧
      record ∈ (runOn bareSite staleDevice ["t", "--once"]).log ∧ record.message = "Probe failed" ∧
      record.fields.lookup "path" = some (.bare "t") ∧ record.fields.lookup "exit_code" = some (Log.number 4)) ∧
    ¬ (runOn bareSite staleDevice ["t", "--once"]).Vouches ∧
    Reached bareSite ["t", "--once"] (steps bareSite ["t", "--once"] brokenOff) ∧
    (steps bareSite ["t", "--once"] brokenOff).complaints = [] ∧
    (steps bareSite ["t", "--once"] brokenOff).errors = [] := by
  obtain ⟨haccounts, hboth, hreached⟩ := reported_once
  have hparse : parse ["t", "--once"] = .ok { path := some "t", once := true } := by cbv
  have htarget : FromTarget bareSite staleDevice ["t", "--once"] (.probe staleError) :=
    ⟨barePlan, staleError, bareSite_makes, rfl, .inr ⟨staleRead, staleDevice_tried barePlan, rfl, by cbv⟩⟩
  have haccount := haccounts bareSite staleDevice ["t", "--once"] _ hparse
  obtain ⟨record, hreport, hnamed, -⟩ := haccount.failure _ staleDevice_fails (by simp)
  have hfilter : (runOn bareSite staleDevice ["t", "--once"]).filter = Filter.upTo .warn :=
    haccount.filter (.ok Settings.default) bareSite_loads
  have hshown : record ∈ (runOn bareSite staleDevice ["t", "--once"]).log :=
    (hreport.plainly (by rw [hfilter]; simp [Filter.upTo])).2 (by rw [hfilter]; decide)
  have hother : ¬ (runOn bareSite staleDevice ["t", "--once"]).Vouches := by
    intro hvouches
    have hclean := (hboth bareSite staleDevice ["t", "--once"] _ (.inl rfl) hvouches).2
    rw [hreport.errors] at hclean
    cases hclean
  have hwords : "Error: " ++ (Failure.probe staleError).message =
      "Error: content read from t differs from payload at byte 9" := by decide +kernel
  have hinterrupted := hreached bareSite ["t", "--once"] (steps bareSite ["t", "--once"] brokenOff) ⟨brokenOff, rfl⟩
  have hzero : (steps bareSite ["t", "--once"] brokenOff).exitStatus? = some 0 := by
    rw [brokenOff_steps]
    rfl
  obtain ⟨hmessage, hpath⟩ := hnamed.2 htarget
  refine ⟨⟨hparse, htarget⟩, ?_, ⟨record, hreport.errors, hshown, hmessage, hpath, ?_⟩, hother, ⟨brokenOff, rfl⟩,
    hinterrupted.success hzero⟩
  · rw [hreport.complaints, hwords]
  · exact hreport.tells.exitCode

end BlockProbe.Command.Shutdown
