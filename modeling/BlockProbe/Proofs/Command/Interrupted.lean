/-
What a run leaves behind when a signal takes it out of a stage.

`Stands` says what the main flow has said and what has become of the files by the place where the main flow is. It holds
at every moment of every interleaving, and it speaks of the worker too, which goes on when the main flow has left.

- `Stood.advance`, `Stood.look`, `stood_step`: each move keeps it.
- `Stands.settings`, `Stands.probed`, `Stands.idled`: what it says of a stage that was left.
- `ended_alone`: a run that no signal takes out of a stage ends as the run without signals.
- `interrupted_run`: what an interrupted run has promised, and when a run fails all the same.
-/
import BlockProbe.Proofs.Command.Listener
import BlockProbe.Proofs.Command.Worker
import Mathlib

namespace BlockProbe.Command.Shutdown

open BlockProbe.Files
open BlockProbe.Probe (ReadBack payload)
open BlockProbe.Settings

variable {site : Site} {arguments : List String} {state : State} {made : Plan} {flow : Flow} {worker : Worker}
  {said : List Line} {tree : Tree} {signal : Signal}

/-- the main flow has ended as the run without signals does: by the same rule, with the same lines and the same files -/
structure EndsAlone (site : Site) (arguments : List String) (status : UInt8) (said : List Line) (tree : Tree) :
    Prop where
  rule : Ends site (filesOf site) arguments (some status) (printed said)
  seen : (run site arguments).seen = (some status, printed said)
  tree : (run site arguments).tree = tree

/-- what the main flow has said, where the worker is, and what has become of the files, by where the main flow is -/
inductive Stands (site : Site) (arguments : List String) : Flow → Worker → List Line → Tree → Prop
  | parsing : Stands site arguments (.parsing arguments) .resting [] site.tree
  | loading {request : Request} {worker : Worker} (hparse : parse arguments = .ok request)
    (hworker : Reading site worker) : Stands site arguments (.loading request) worker [] site.tree
  | starting {request : Request} {loaded : Except LoadError Settings} (hparse : parse arguments = .ok request)
    (hload : load site.tree site.directory site.home site.environment = .ofExcept loaded) :
    Stands site arguments (.starting request loaded) .resting [] site.tree
  | entering {made : Plan} (hmade : Makes site arguments made) :
    Stands site arguments (.entering made) .resting [] site.tree
  | probing {made : Plan} {worker : Worker} {tree : Tree} (hmade : Makes site arguments made)
    (htrip : Tripping site made worker tree) : Stands site arguments (.probing made) worker [.writing made.path] tree
  | judging {made : Plan} {read : ReadBack} (hmade : Makes site arguments made)
    (htried : tried made (targetAt site made) = .done read) :
    Stands site arguments (.judging made read) .resting [.writing made.path, .read read] (treeAfter site made)
  | idle {made : Plan} {read : ReadBack} (hmade : Makes site arguments made) (beats : Nat) :
    Stands site arguments (.idle made) .resting
      (.writing made.path :: .read read :: List.replicate (beats + 1) (.heartbeat made.heartbeat.message))
      (treeAfter site made)
  | left {flow : Flow} {stage : Stage} {worker : Worker} {said : List Line} {tree : Tree} (signal : Signal)
    (hstage : flow.stage? = some stage) (before : Stands site arguments flow worker said tree) :
    Stands site arguments (.left stage signal) worker said tree
  | ended {outcome : Outcome} {status : UInt8} {said : List Line} {tree : Tree}
    (hstatus : outcome.exitStatus? = some status) (hends : EndsAlone site arguments status said tree) :
    Stands site arguments (.ended outcome) .resting said tree

/-- how things stand at one moment -/
def Stood (site : Site) (arguments : List String) (state : State) : Prop :=
  Stands site arguments state.flow state.worker state.said state.tree

/-! ## The worker goes on -/

theorem work_resting (h : state.worker = .resting) (site : Site) (count : Nat) : work site state count = state := by
  unfold work
  rw [h]

theorem Stands.work_of_resting (h : Stands site arguments flow .resting said tree) (hworker : state.worker = .resting)
    (htree : state.tree = tree) (count : Nat) :
    Stands site arguments flow (Shutdown.work site state count).worker said (Shutdown.work site state count).tree := by
  rw [work_resting hworker, hworker, htree]
  exact h

/-- a move of the worker, wherever the main flow is -/
theorem Stands.work (h : Stands site arguments flow worker said tree) (hworker : state.worker = worker)
    (htree : state.tree = tree) (count : Nat) :
    Stands site arguments flow (Shutdown.work site state count).worker said (Shutdown.work site state count).tree := by
  -- a stage that was left stands as the place where it was left
  induction h with
  | loading hparse hreading =>
    obtain ⟨hlater, hsame⟩ := (hworker ▸ hreading : Reading site state.worker).work htree count
    rw [hsame]
    exact .loading hparse hlater
  | probing hmade htrip => exact .probing hmade (htrip.work hworker htree count)
  | left signal hstage before ih => exact .left signal hstage (ih hworker htree)
  | parsing => exact Stands.parsing.work_of_resting hworker htree count
  | starting hparse hload => exact (Stands.starting hparse hload).work_of_resting hworker htree count
  | entering hmade => exact (Stands.entering hmade).work_of_resting hworker htree count
  | judging hmade htried => exact (Stands.judging hmade htried).work_of_resting hworker htree count
  | idle hmade beats => exact (Stands.idle hmade beats).work_of_resting hworker htree count
  | ended hstatus hends => exact (Stands.ended hstatus hends).work_of_resting hworker htree count

/-! ## The main flow goes on -/

theorem said_print (state : State) {line : Line} (hline : line ≠ .exiting) :
    (print state line).said = state.said ++ [line] :=
  said_append [line] (by simp [Ne.symm hline])

/-- a run that fails before it opens its target leaves the files as they are -/
theorem endsAlone_of_failed (hload : load site.tree site.directory site.home site.environment ≠ .waits)
    {status : UInt8} (hstatus : status ≠ 0) (hio : status ≠ 2)
    (hends : Ends site (filesOf site) arguments (some status) (printed said)) :
    EndsAlone site arguments status said site.tree where
  rule := hends
  seen := hends.seen hload
  tree := (run_tree_of_status (congrArg Prod.fst (hends.seen hload)) hstatus).resolve_right fun h => hio h.1

/-- a run that makes a plan leaves the files as the plan does -/
theorem endsAlone_of_makes (hmade : Makes site arguments made) {status : UInt8}
    (hends : Ends site (filesOf site) arguments (some status) (printed said)) :
    EndsAlone site arguments status said (treeAfter site made) where
  rule := hends
  seen := by
    obtain ⟨_, _, -, hload, -⟩ := hmade
    exact hends.seen (by rw [hload]; simp)
  tree := run_tree_of_makes hmade

/-- a failure that is not a missing path is no line of standard output -/
theorem stood_fail {failure : Failure} (husage : failure ≠ .usage) (hworker : state.worker = .resting)
    (hends : EndsAlone site arguments failure.exitStatus state.said state.tree) :
    Stood site arguments (fail state failure) := by
  have hended : Stands site arguments (.ended (.failed failure)) state.worker state.said state.tree :=
    hworker ▸ .ended rfl hends
  cases failure with
  | usage => exact (husage rfl).elim
  | _ => exact hended

/-- a text that was asked for is the only line -/
theorem stood_informed {text : String} (hworker : state.worker = .resting)
    (hends : EndsAlone site arguments 0 (state.said ++ [.informed text]) state.tree) :
    Stood site arguments (print { state with flow := .ended .informed } (.informed text)) := by
  unfold Stood
  rw [said_print _ (fun h => by cases h)]
  exact hworker ▸ .ended rfl hends

/-- the main flow takes the arguments -/
theorem stood_accept (hworker : state.worker = .resting) (hsaid : state.said = []) (htree : state.tree = site.tree) :
    Stood site arguments (accept state arguments) := by
  unfold accept
  cases hparse : parse arguments with
  | error stop =>
    have hkept : (run site arguments).tree = state.tree := (run_tree_of_stop hparse).trans htree.symm
    cases stop with
    | help =>
      refine stood_informed hworker ?_
      rw [hsaid]
      exact ⟨.help hparse, by rw [run, runOn_of_stop _ hparse]; rfl, hkept⟩
    | version =>
      refine stood_informed hworker ?_
      rw [hsaid]
      exact ⟨.version hparse, by rw [run, runOn_of_stop _ hparse]; rfl, hkept⟩
    | refused refusal =>
      have hends : EndsAlone site arguments 2 state.said state.tree := by
        rw [hsaid]
        exact ⟨.refused hparse, by rw [run, runOn_of_stop _ hparse]; rfl, hkept⟩
      exact hworker ▸ .ended rfl hends
  | ok request =>
    show Stands site arguments (.loading request) .reading state.said state.tree
    rw [hsaid, htree]
    exact .loading hparse .reading

/-- the main flow makes a plan, or fails -/
theorem stood_prepare {request : Request} {loaded : Except LoadError Settings} (hparse : parse arguments = .ok request)
    (hload : load site.tree site.directory site.home site.environment = .ofExcept loaded)
    (hworker : state.worker = .resting) (hsaid : state.said = []) (htree : state.tree = site.tree) :
    Stood site arguments (prepare state request loaded) := by
  have hsettled : load site.tree site.directory site.home site.environment ≠ .waits := by
    rw [hload]
    cases loaded with
    | error error => intro h; cases h
    | ok settings => intro h; cases h
  unfold prepare
  by_cases hpath : request.path = none
  · have hends : EndsAlone site arguments 1 (state.said ++ [.usage]) state.tree := by
      rw [hsaid, htree]
      exact endsAlone_of_failed hsettled (by decide) (by decide) (.noPath hparse hpath)
    rw [plan_of_no_path hpath]
    show Stands site arguments (.ended (.failed .usage)) state.worker (print state .usage).said state.tree
    rw [said_print _ (fun h => by cases h)]
    exact hworker ▸ .ended rfl hends
  cases loaded with
  | error error =>
    rw [plan_of_error hpath]
    refine stood_fail (by simp) hworker ?_
    show EndsAlone site arguments 5 state.said state.tree
    rw [hsaid, htree]
    exact endsAlone_of_failed hsettled (by decide) (by decide) (.settingsRefused hparse hpath hload)
  | ok settings =>
    cases hcheck : (withInterval settings request.interval).check with
    | error reason =>
      rw [plan_of_check hpath hcheck]
      refine stood_fail (by simp) hworker ?_
      show EndsAlone site arguments 5 state.said state.tree
      rw [hsaid, htree]
      exact endsAlone_of_failed hsettled (by decide) (by decide) (.intervalRefused hparse hpath hload hcheck)
    | ok _ =>
      obtain ⟨made, hplan⟩ := plan_of_passed hpath hcheck
      rw [hplan]
      show Stands site arguments (.entering made) state.worker state.said state.tree
      rw [hworker, hsaid, htree]
      exact .entering ⟨request, settings, hparse, hload, hplan⟩

/-- a heartbeat more -/
theorem stood_beat {read : ReadBack} (hmade : Makes site arguments made) (beats : Nat)
    (hworker : state.worker = .resting)
    (hsaid : state.said =
      .writing made.path :: .read read :: List.replicate beats (.heartbeat made.heartbeat.message))
    (htree : state.tree = treeAfter site made) : Stood site arguments (beat state made) := by
  have hlater : (beat state made).said =
      .writing made.path :: .read read :: List.replicate (beats + 1) (.heartbeat made.heartbeat.message) := by
    unfold beat
    rw [said_print _ (fun h => by cases h), List.replicate_succ']
    exact congrArg (· ++ _) hsaid
  show Stands site arguments (.idle made) state.worker (beat state made).said state.tree
  rw [hworker, hlater, htree]
  exact .idle hmade beats

theorem printed_trip (made : Plan) (read : ReadBack) :
    printed [.writing made.path, .read read] = writingLine made ++ readLine read := by
  show "" ++ writingLine made ++ readLine read = _
  rw [String.empty_append]

/-- the verdict, and what is said with it -/
theorem stood_conclude {read : ReadBack} (hmade : Makes site arguments made)
    (htried : tried made (targetAt site made) = .done read) (hworker : state.worker = .resting)
    (hsaid : state.said = [.writing made.path, .read read]) (htree : state.tree = treeAfter site made) :
    Stood site arguments (conclude state made read) := by
  have hprinted : printed state.said = writingLine made ++ readLine read := hsaid ▸ printed_trip made read
  unfold conclude
  generalize hjudge : judge made read = judged
  obtain ⟨records, verdict⟩ := judged
  have hverdict : (judge made read).2 = verdict := by rw [hjudge]
  by_cases hdata : made.verify = true → read.data = payload
  · rw [judge_accepts hdata] at hverdict
    subst hverdict
    cases honce : made.once with
    | true =>
      have hends : EndsAlone site arguments 0 state.said state.tree :=
        htree ▸ endsAlone_of_makes hmade (hprinted ▸ .finished hmade htried hdata honce)
      show Stands site arguments (.ended .finished) state.worker state.said state.tree
      exact hworker ▸ .ended rfl hends
    | false => exact stood_beat hmade 0 hworker hsaid htree
  · obtain ⟨hverify, hdata⟩ := Classical.not_imp.1 hdata
    by_cases hlength : read.data.length = 15
    · obtain ⟨offset, -, hrefused⟩ := Probe.verify_of_data (by rwa [payload_length]) hdata
      rw [judge_refuses hverify hrefused] at hverdict
      subst hverdict
      refine stood_fail (by simp) hworker (htree ▸ endsAlone_of_makes hmade ?_)
      exact hprinted ▸ .mismatch hmade htried hverify hlength hdata
    · rw [judge_refuses hverify (Probe.verify_of_length (by rwa [payload_length]))] at hverdict
      subst hverdict
      refine stood_fail (by simp) hworker (htree ▸ endsAlone_of_makes hmade ?_)
      exact hprinted ▸ .shortRead hmade htried hverify hlength

/-- the main flow goes on, wherever it is -/
theorem Stands.advance (h : Stands site arguments flow worker said tree) (hflow : state.flow = flow)
    (hworker : state.worker = worker) (hsaid : state.said = said) (htree : state.tree = tree) :
    Stood site arguments (Shutdown.advance site state) := by
  have hsame : Stood site arguments state := by
    unfold Stood
    rw [hflow, hworker, hsaid, htree]
    exact h
  unfold Shutdown.advance
  rw [hflow, hworker]
  cases h with
  | parsing => exact stood_accept hworker hsaid htree
  | loading hparse hreading =>
    cases hreading with
    | reading => exact hsame
    | hasSettings hload =>
      show Stands site arguments (.starting _ _) .resting state.said state.tree
      rw [hsaid, htree]
      exact .starting hparse hload
  | starting hparse hload => exact stood_prepare hparse hload hworker hsaid htree
  | @entering made hmade =>
    dsimp only
    unfold Stood
    rw [said_print _ (fun h => by cases h)]
    show Stands site arguments (.probing made) (.starting made) (state.said ++ _) state.tree
    rw [hsaid, htree]
    exact .probing hmade .starting
  | @probing made _ _ hmade htrip =>
    -- the main flow goes on only when the round trip has come back
    cases htrip with
    | failed htried =>
      obtain ⟨call, fault, rfl⟩ := Probe.roundTrip_failed htried
      refine stood_fail (by simp) rfl ?_
      show EndsAlone site arguments 2 state.said state.tree
      rw [hsaid, htree]
      exact endsAlone_of_makes hmade (.tripFailed hmade htried)
    | read htried =>
      dsimp only
      unfold Stood
      rw [said_print _ (fun h => by cases h)]
      show Stands site arguments (.judging made _) .resting (state.said ++ _) state.tree
      rw [hsaid, htree]
      exact .judging hmade htried
    | _ => exact hsame
  | judging hmade htried => exact stood_conclude hmade htried hworker hsaid htree
  | idle hmade beats => exact stood_beat hmade (beats + 1) hworker hsaid htree
  | left _ _ _ => exact hsame
  | ended _ _ => exact hsame

/-! ## Any moves -/

/-- **Every move keeps things standing.** -/
theorem stood_step (state : State) (move : Move) (h : Stood site arguments state) :
    Stood site arguments (step site state move) := by
  cases move with
  | deliver signal => exact h
  | listen signal =>
    obtain ⟨listener, channel, output, log, hlisten, hsaid⟩ := listen_frame state signal
    show Stands site arguments (listen state signal).flow (listen state signal).worker (listen state signal).said
      (listen state signal).tree
    rw [hlisten]
    show Stands site arguments state.flow state.worker (output.filter (· ≠ .exiting)) state.tree
    rw [hsaid]
    exact h
  | work count =>
    obtain ⟨worker, tree, log, hwork⟩ := work_frame site state count
    have hstands := Stands.work h rfl rfl count
    show Stands site arguments (work site state count).flow (work site state count).worker
      (work site state count).said (work site state count).tree
    rw [hwork] at hstands ⊢
    exact hstands
  | advance => exact Stands.advance h rfl rfl rfl rfl
  | look =>
    show Stood site arguments (look state)
    rcases look_cases state with hsame | ⟨stage, hstage, hwaits | ⟨signal, log, -, hleaves⟩⟩
    · rwa [hsame]
    · rw [hwaits]
      exact h
    · rw [hleaves]
      exact .left signal hstage h

theorem Reached.stood (h : Reached site arguments state) : Stood site arguments state := by
  obtain ⟨moves, rfl⟩ := h
  have hstart : Stood site arguments (start site arguments) := .parsing
  exact moves_keep stood_step hstart moves

/-- once the main flow is over it stays where it is and says nothing more, whatever the others do -/
theorem over_moves (h : state.flow.isOver = true) (moves : List Move) :
    (moves.foldl (step site) state).flow = state.flow ∧ (moves.foldl (step site) state).said = state.said := by
  have hstep : ∀ later move, later.flow = state.flow ∧ later.said = state.said →
      (step site later move).flow = state.flow ∧ (step site later move).said = state.said := by
    rintro later move ⟨hflow, hsaid⟩
    have hmove := @over_step site later (hflow ▸ h) move
    exact ⟨hmove.1.trans hflow, hmove.2.trans hsaid⟩
  exact moves_keep hstep ⟨rfl, rfl⟩ moves

/-! ## A stage that was left -/

/-- a run that left while its settings were read has said nothing and changed nothing -/
theorem Stands.settings (h : Stands site arguments (.left .settings signal) worker said tree) :
    said = [] ∧ tree = site.tree := by
  cases h with
  | left _ hstage before =>
    cases before with
    | loading _ _ => exact ⟨rfl, rfl⟩
    | _ => cases hstage

/-- a run that left while it probed its target has said at most that it writes, and has written part of the payload at
most -/
theorem Stands.probed (h : Stands site arguments (.left .probing signal) worker said tree) :
    ∃ made, Makes site arguments made ∧ (said = [] ∨ said = [.writing made.path]) ∧
      (∀ location, ¬ Targets site arguments location → tree.get? location = site.tree.get? location) ∧
      ∀ location, Targets site arguments location → tree.get? location = site.tree.get? location ∨
        ∃ mode count, tree.get? location = some (.file mode (payload.take count)) := by
  cases h with
  | left _ hstage before =>
    cases before with
    | entering hmade => exact ⟨_, hmade, .inl rfl, fun _ _ => rfl, fun _ _ => .inl rfl⟩
    | probing hmade htrip => exact ⟨_, hmade, .inr rfl, htrip.partly hmade⟩
    | _ => cases hstage

/-- a run that left while it was idle has said that it writes, what it read, and a heartbeat at least -/
theorem Stands.idled (h : Stands site arguments (.left .idle signal) worker said tree) :
    ∃ made read beats, Makes site arguments made ∧ said =
      .writing made.path :: .read read :: List.replicate (beats + 1) (.heartbeat made.heartbeat.message) := by
  cases h with
  | left _ hstage before =>
    cases before with
    | idle hmade beats => exact ⟨_, _, beats, hmade, rfl⟩
    | _ => cases hstage

theorem Sound.exiting_of_left (h : Sound state) {stage : Stage} (hflow : state.flow = .left stage signal) :
    .exiting ∈ state.output := by
  have hvalue := h.left stage signal hflow
  exact List.count_pos_iff.1 (by rw [h.announced, (h.published.of_value hvalue).2]; exact Nat.one_pos)

theorem Stands.alone {outcome : Outcome} (h : Stands site arguments (.ended outcome) worker said tree) :
    ∃ status, outcome.exitStatus? = some status ∧ EndsAlone site arguments status said tree := by
  cases h with
  | ended hstatus hends => exact ⟨_, hstatus, hends⟩

/-- **A main flow that no signal takes out of a stage** ends as the run without signals, whatever was delivered: with
the same exit status, the same lines and the same files. -/
theorem ended_alone (h : Reached site arguments state) {outcome : Outcome} (hflow : state.flow = .ended outcome) :
    state.exitStatus? = (run site arguments).outcome.exitStatus? ∧
      printed state.said = (run site arguments).output ∧ state.tree = (run site arguments).tree := by
  have hstands : Stands site arguments (.ended outcome) state.worker state.said state.tree := hflow ▸ h.stood
  obtain ⟨status, hstatus, -, hseen, htree⟩ := hstands.alone
  have hsame : state.exitStatus? = some status := by
    unfold State.exitStatus?
    rw [hflow]
    exact hstatus
  exact ⟨hsame.trans (congrArg Prod.fst hseen).symm, (congrArg Prod.snd hseen).symm, htree.symm⟩

/-- a run that failed has ended by itself -/
theorem Stood.failed (h : Stood site arguments state) {status : UInt8} (hstatus : state.exitStatus? = some status)
    (hfailed : status ≠ 0) :
    ∃ outcome, state.flow = .ended outcome ∧ EndsAlone site arguments status state.said state.tree := by
  unfold State.exitStatus? at hstatus
  cases hflow : state.flow with
  | left stage signal =>
    rw [hflow] at hstatus
    cases hstatus
    exact (hfailed rfl).elim
  | ended outcome =>
    have hstands : Stands site arguments (.ended outcome) state.worker state.said state.tree := hflow ▸ h
    obtain ⟨other, hother, hends⟩ := hstands.alone
    rw [hflow] at hstatus
    cases hother.symm.trans hstatus
    exact ⟨outcome, rfl, hends⟩
  | _ => rw [hflow] at hstatus; cases hstatus

/-- **An interrupted run.** A main flow that left a stage because of a signal exits with zero, the signal was announced
before, and whatever the others still do it says nothing more.
- If it left while its settings were read, it has said nothing and no file is changed.
- If it left while it probed its target, it has said at most that it writes; the target is as it was before or holds a
  part of the payload from the first byte on, and every other file is as it was.
- If it left while it was idle, it has said that it writes, then what it read, then a heartbeat at least.

A run that exits with another status has ended by the rule for an error of its own, as it does without signals, and no
signal that comes later changes that. -/
theorem interrupted_run (h : Reached site arguments state) :
    (∀ stage signal, state.flow = .left stage signal →
      state.exitStatus? = some 0 ∧ .exiting ∈ state.output ∧
      (∀ moves : List Move, (moves.foldl (step site) state).flow = .left stage signal ∧
        (moves.foldl (step site) state).said = state.said) ∧
      (stage = .settings → state.said = [] ∧ state.tree = site.tree) ∧
      (stage = .probing → ∃ made, Makes site arguments made ∧
        (state.said = [] ∨ state.said = [.writing made.path]) ∧
        (∀ location, ¬ Targets site arguments location → state.tree.get? location = site.tree.get? location) ∧
        ∀ location, Targets site arguments location → state.tree.get? location = site.tree.get? location ∨
          ∃ mode count, state.tree.get? location = some (.file mode (payload.take count))) ∧
      (stage = .idle → ∃ made read beats, Makes site arguments made ∧ state.said =
        .writing made.path :: .read read :: List.replicate (beats + 1) (.heartbeat made.heartbeat.message))) ∧
    ∀ status, state.exitStatus? = some status → status ≠ 0 →
      ∃ outcome, state.flow = .ended outcome ∧ EndsAlone site arguments status state.said state.tree ∧
        ∀ moves : List Move, (moves.foldl (step site) state).flow = .ended outcome := by
  have hstood := h.stood
  constructor
  · intro stage signal hflow
    have hstatus : state.exitStatus? = some 0 := by
      unfold State.exitStatus?
      rw [hflow]
    have hover : state.flow.isOver = true := by rw [hflow]; rfl
    have hstands : Stands site arguments (.left stage signal) state.worker state.said state.tree := hflow ▸ hstood
    refine ⟨hstatus, h.sound.exiting_of_left hflow, ?_, ?_, ?_, ?_⟩
    · intro moves
      obtain ⟨hlater, hsaid⟩ := @over_moves site state hover moves
      exact ⟨hlater.trans hflow, hsaid⟩
    · rintro rfl
      exact hstands.settings
    · rintro rfl
      exact hstands.probed
    · rintro rfl
      exact hstands.idled
  · intro status hstatus hfailed
    obtain ⟨outcome, hflow, hends⟩ := hstood.failed hstatus hfailed
    have hover : state.flow.isOver = true := by rw [hflow]; rfl
    exact ⟨outcome, hflow, hends, fun moves => (over_moves hover moves).1.trans hflow⟩

/-! A signal while the payload is written: four bytes of it are in the file. -/

theorem bareSite_names : Names bareSite.tree bareSite.directory "t" ["t"] :=
  ⟨by decide, by decide, by cbv, .last ⟨by decide, by decide, by cbv, rfl⟩ (.inl rfl)⟩

def brokenOff : List Move :=
  [.advance, .work 0, .advance, .advance, .advance, .work 0, .work 4, .deliver .terminate, .listen .terminate,
    .listen .terminate, .listen .terminate, .listen .terminate, .look]

theorem brokenOff_steps : steps bareSite ["t", "--once"] brokenOff = {
    delivered := [.terminate]
    listener := .sent .terminate
    channel := Channel.publish {} .terminate
    receiver := { seen := 1 }
    worker := .writing barePlan ["t"] 4
    flow := .left .probing .terminate
    output := [.writing "t", .exiting]
    filter := Log.Filter.upTo .warn
    tree := Tree.empty.set ["t"] (.file 0o644 (payload.take 4)) } := by
  have hparse : step bareSite (start bareSite ["t", "--once"]) .advance =
      { flow := .loading { path := some "t", once := true }, worker := .reading, tree := .empty } := by cbv
  have hload : step bareSite
      { flow := .loading { path := some "t", once := true }, worker := .reading, tree := .empty } (.work 0) = {
        flow := .loading { path := some "t", once := true }, worker := .hasSettings (.ok Settings.default)
        tree := .empty } := by
    have hsettings : load Tree.empty bareSite.directory bareSite.home bareSite.environment = .done Settings.default :=
      bareSite_loads
    unfold step work
    dsimp only
    rw [hsettings]
  have hplan : step bareSite (step bareSite (step bareSite {
        flow := .loading { path := some "t", once := true }, worker := .hasSettings (.ok Settings.default)
        tree := .empty } .advance) .advance) .advance = {
        flow := .probing barePlan, worker := .starting barePlan, output := [.writing "t"]
        filter := Log.Filter.upTo .warn, tree := .empty } := by cbv
  have hopen : step bareSite {
        flow := .probing barePlan, worker := .starting barePlan, output := [.writing "t"]
        filter := Log.Filter.upTo .warn, tree := .empty } (.work 0) = {
        flow := .probing barePlan, worker := .writing barePlan ["t"] 0, output := [.writing "t"]
        filter := Log.Filter.upTo .warn, tree := Tree.empty.set ["t"] (.file 0o644 []) } := by
    have hopening : Tree.empty.opening bareSite.directory barePlan.path barePlan.options.mode = .file ["t"] 0o644 :=
      (Tree.opening_of_mayFill bareSite_names rfl _).trans (by cbv)
    unfold step work openTarget
    dsimp only
    rw [Tree.openForWriting_eq, hopening]
    cbv
  unfold steps brokenOff
  rw [List.foldl_cons, hparse, List.foldl_cons, hload, List.foldl_cons, List.foldl_cons, List.foldl_cons, hplan,
    List.foldl_cons, hopen]
  cbv

theorem bareSite_targets : Targets bareSite ["t", "--once"] ["t"] :=
  targets_iff_makes.2 ⟨barePlan, bareSite_makes, bareSite_names⟩

/-- the sample's run has left while it probed: it exits with zero, goes on saying nothing, and other files are as they
were; a run with arguments that are refused fails although a signal came -/
theorem brokenOff_interrupted :
    Reached bareSite ["t", "--once"] (steps bareSite ["t", "--once"] brokenOff) ∧
    (steps bareSite ["t", "--once"] brokenOff).flow = .left .probing .terminate ∧
    (steps bareSite ["t", "--once"] brokenOff).tree.get? ["t"] = some (.file 0o644 (payload.take 4)) ∧
    (steps bareSite ["t", "--once"] brokenOff).exitStatus? = some 0 ∧
    ([Move.work 11, .work 0].foldl (step bareSite) (steps bareSite ["t", "--once"] brokenOff)).said =
      [.writing "t"] ∧
    (∃ mode count, (steps bareSite ["t", "--once"] brokenOff).tree.get? ["t"] =
      some (.file mode (payload.take count))) ∧
    Reached bareSite ["--none"] (steps bareSite ["--none"] [.deliver .interrupt, .listen .interrupt, .advance]) ∧
    ∃ outcome,
      (steps bareSite ["--none"] [.deliver .interrupt, .listen .interrupt, .advance]).flow = .ended outcome ∧
      Ends bareSite (filesOf bareSite) ["--none"] (some 2)
        (printed (steps bareSite ["--none"] [.deliver .interrupt, .listen .interrupt, .advance]).said) := by
  have hreached : Reached bareSite ["t", "--once"] (steps bareSite ["t", "--once"] brokenOff) := ⟨brokenOff, rfl⟩
  have hrefused : Reached bareSite ["--none"]
      (steps bareSite ["--none"] [.deliver .interrupt, .listen .interrupt, .advance]) := ⟨_, rfl⟩
  have hflow : (steps bareSite ["t", "--once"] brokenOff).flow = .left .probing .terminate := by rw [brokenOff_steps]
  have hfile : (steps bareSite ["t", "--once"] brokenOff).tree.get? ["t"] =
      some (.file 0o644 (payload.take 4)) := by rw [brokenOff_steps]; rfl
  have hsaid : (steps bareSite ["t", "--once"] brokenOff).said = [.writing "t"] := by rw [brokenOff_steps]; rfl
  obtain ⟨hzero, -, hlater, -, hprobing, -⟩ := (interrupted_run hreached).1 .probing .terminate hflow
  obtain ⟨made, -, -, -, hpart⟩ := hprobing rfl
  have hnone : bareSite.tree.get? ["t"] = none := rfl
  have htaken := (hpart ["t"] bareSite_targets).resolve_left (by rw [hfile, hnone]; exact Option.some_ne_none _)
  have hstatus :
      (steps bareSite ["--none"] [.deliver .interrupt, .listen .interrupt, .advance]).exitStatus? = some 2 := by
    have haccept : steps bareSite ["--none"] [.deliver .interrupt, .listen .interrupt, .advance] =
        accept { start bareSite ["--none"] with delivered := [.interrupt], listener := .woken .interrupt }
          ["--none"] := rfl
    have hparse : parse ["--none"] = .error (.refused (.unexpectedArgument "--none")) := by cbv
    unfold State.exitStatus?
    rw [haccept, accept, hparse]
    rfl
  obtain ⟨outcome, hended, hends, -⟩ := (interrupted_run hrefused).2 2 hstatus (by decide)
  exact ⟨hreached, hflow, hfile, hzero, (hlater _).2.trans hsaid, htaken, hrefused, outcome, hended, hends.rule⟩

end BlockProbe.Command.Shutdown
