/-
What a move can do.

Each party has its own part of the state and leaves the rest as it is.

- `listen_frame`, `work_frame`: the listener and the worker change nothing of the main flow's.
- `Advances`: the main flow goes on: it says lines of its own, and it does not take a signal.
- `look_cases`: the main flow looks: it goes on waiting, or it leaves with the signal that is there.
- `over_step`: once the main flow is over it stays where it is and says nothing more.
-/
import BlockProbe.Command.Shutdown
import Mathlib.Tactic.Common

namespace BlockProbe.Command.Shutdown

open BlockProbe.Log (Record)

variable {site : Site} {arguments : List String} {state middle after : State}

/-! ## The listener and the worker -/

theorem said_append (lines : List Line) (hlines : .exiting ∉ lines) :
    (state.output ++ lines).filter (· ≠ .exiting) = state.said ++ lines := by
  have hkept : lines.filter (· ≠ .exiting) = lines :=
    List.filter_eq_self.2 fun line hline => decide_eq_true fun heq => hlines (heq ▸ hline)
  rw [List.filter_append, hkept]
  rfl

/-- the listener says nothing for the main flow, and nothing at all but that a signal came -/
theorem listen_frame (state : State) (signal : Signal) :
    ∃ listener channel output log, listen state signal = { state with listener, channel, output, log } ∧
      output.filter (· ≠ .exiting) = state.said := by
  unfold listen
  cases state.listener with
  | waiting =>
    dsimp only
    split_ifs
    · exact ⟨_, _, _, _, rfl, rfl⟩
    · exact ⟨_, _, _, _, rfl, rfl⟩
  | woken heard => exact ⟨_, _, _, _, rfl, by simp [State.said]⟩
  | announced heard => exact ⟨_, _, _, _, rfl, rfl⟩
  | logged heard =>
    dsimp only [send]
    split_ifs
    · exact ⟨_, _, _, _, rfl, rfl⟩
    · exact ⟨_, _, _, _, rfl, rfl⟩
  | sent heard => exact ⟨_, _, _, _, rfl, rfl⟩
  | gone heard => exact ⟨_, _, _, _, rfl, rfl⟩

/-- the worker touches the files and its own place alone -/
theorem work_frame (site : Site) (state : State) (count : Nat) :
    ∃ worker tree log, work site state count = { state with worker, tree, log } := by
  unfold work
  cases state.worker with
  | resting => exact ⟨_, _, _, rfl⟩
  | hasSettings loaded => exact ⟨_, _, _, rfl⟩
  | finished outcome => exact ⟨_, _, _, rfl⟩
  | reading =>
    dsimp only
    cases Settings.load state.tree site.directory site.home site.environment <;> exact ⟨_, _, _, rfl⟩
  | starting plan =>
    dsimp only [openTarget]
    split <;> exact ⟨_, _, _, rfl⟩
  | writing plan location written =>
    dsimp only [complete]
    split_ifs
    · exact ⟨_, _, _, rfl⟩
    · split <;> exact ⟨_, _, _, rfl⟩
  | written plan =>
    dsimp only [readBack]
    split <;> exact ⟨_, _, _, rfl⟩

/-! ## The main flow goes on -/

/-- the main flow goes on: it leaves what is not its own alone, says lines of its own, goes on with its call for the
signal or makes a new one, and does not take a signal -/
structure Advances (before after : State) : Prop where
  delivered : after.delivered = before.delivered
  listener : after.listener = before.listener
  channel : after.channel = before.channel
  tree : after.tree = before.tree
  receiver : after.receiver = before.receiver ∨ after.receiver = before.receiver.calling
  output : ∃ lines, .exiting ∉ lines ∧ after.output = before.output ++ lines
  left : ∀ stage signal, after.flow = .left stage signal → before.flow = .left stage signal

namespace Advances

theorem refl (state : State) : Advances state state :=
  ⟨rfl, rfl, rfl, rfl, .inl rfl, ⟨[], by simp, by simp⟩, fun _ _ h => h⟩

theorem trans (h : Advances state middle) (hlater : Advances middle after) : Advances state after where
  delivered := hlater.delivered.trans h.delivered
  listener := hlater.listener.trans h.listener
  channel := hlater.channel.trans h.channel
  tree := hlater.tree.trans h.tree
  receiver := by
    rcases h.receiver with hsame | hanew <;> rcases hlater.receiver with hsameLater | hanewLater
    · exact .inl (hsameLater.trans hsame)
    · exact .inr (by rw [hanewLater, hsame])
    · exact .inr (hsameLater.trans hanew)
    · exact .inr (by rw [hanewLater, hanew]; rfl)
  output := by
    obtain ⟨lines, hlines, houtput⟩ := h.output
    obtain ⟨more, hmore, houtputLater⟩ := hlater.output
    refine ⟨lines ++ more, ?_, by rw [houtputLater, houtput, List.append_assoc]⟩
    simp [hlines, hmore]
  left := fun stage signal hleft => h.left stage signal (hlater.left stage signal hleft)

/-- the main flow goes to another place, with its worker, its complaints and its log -/
theorem of_flow {flow : Flow} (hflow : ∀ stage signal, flow = .left stage signal → state.flow = .left stage signal)
    (worker : Worker) (complaints : List String) (filter : Log.Filter) (log : List Record) :
    Advances state { state with flow, worker, complaints, filter, log } :=
  ⟨rfl, rfl, rfl, rfl, .inl rfl, ⟨[], by simp, by simp⟩, hflow⟩

theorem note (state : State) (records : List Record) : Advances state (Shutdown.note state records) :=
  of_flow (fun _ _ h => h) state.worker state.complaints state.filter _

theorem print (state : State) {line : Line} (hline : line ≠ .exiting) : Advances state (Shutdown.print state line) :=
  ⟨rfl, rfl, rfl, rfl, .inl rfl, ⟨[line], by simp [Ne.symm hline], rfl⟩, fun _ _ h => h⟩

theorem calling (state : State) : Advances state { state with receiver := state.receiver.calling } :=
  ⟨rfl, rfl, rfl, rfl, .inr rfl, ⟨[], by simp, by simp⟩, fun _ _ h => h⟩

theorem fail (state : State) (failure : Failure) : Advances state (Shutdown.fail state failure) := by
  have hended (complaints : List String) :
      Advances state { state with flow := .ended (.failed failure), complaints } :=
    of_flow (by simp) state.worker complaints state.filter state.log
  unfold Shutdown.fail
  cases failure with
  | usage => exact (hended state.complaints).trans (print _ (by simp))
  | _ => exact (hended _).trans (note _ _)

theorem beat (state : State) (plan : Plan) : Advances state (Shutdown.beat state plan) := by
  have hidle : Advances state { state with flow := .idle plan } :=
    of_flow (by simp) state.worker state.complaints state.filter state.log
  exact (hidle.trans (calling _)).trans (print _ (by simp))

theorem accept (state : State) (arguments : List String) : Advances state (Shutdown.accept state arguments) := by
  have hended (outcome : Outcome) (complaints : List String) :
      Advances state { state with flow := .ended outcome, complaints } :=
    of_flow (by simp) state.worker complaints state.filter state.log
  unfold Shutdown.accept
  cases parse arguments with
  | error stop =>
    cases stop with
    | help => exact (hended .informed state.complaints).trans (print _ (by simp))
    | version => exact (hended .informed state.complaints).trans (print _ (by simp))
    | refused refusal => exact hended .refused _
  | ok request =>
    have hloading : Advances state { state with flow := .loading request, worker := .reading } :=
      of_flow (by simp) .reading state.complaints state.filter state.log
    exact hloading.trans (calling _)

theorem prepare (state : State) (request : Request) (loaded : Except Settings.LoadError Settings) :
    Advances state (Shutdown.prepare state request loaded) := by
  unfold Shutdown.prepare
  cases plan request loaded with
  | error failure => exact fail state failure
  | ok plan =>
    have hentering : Advances state { state with flow := .entering plan } :=
      of_flow (by simp) state.worker state.complaints state.filter state.log
    exact (hentering.trans (calling _)).trans (note _ _)

theorem conclude (state : State) (plan : Plan) (read : Probe.ReadBack) :
    Advances state (Shutdown.conclude state plan read) := by
  unfold Shutdown.conclude
  obtain ⟨records, verdict⟩ := judge plan read
  have hjudged := note state records
  cases verdict with
  | error failure => exact hjudged.trans (fail _ failure)
  | ok _ =>
    dsimp only
    split_ifs
    · exact hjudged.trans (of_flow (by simp) _ _ _ _)
    · exact hjudged.trans (beat _ plan)

end Advances

/-- the main flow goes on -/
theorem advance_advances (site : Site) (state : State) : Advances state (advance site state) := by
  unfold advance
  split
  · exact .accept state _
  · exact .of_flow (by simp) .resting state.complaints _ state.log
  · exact .prepare state _ _
  · exact (Advances.of_flow (by simp) _ state.complaints state.filter state.log).trans (.print _ (by simp))
  · exact (Advances.of_flow (by simp) .resting state.complaints state.filter state.log).trans (.print _ (by simp))
  · exact (Advances.of_flow (fun _ _ h => h) .resting state.complaints state.filter state.log).trans (.fail _ _)
  · exact .conclude state _ _
  · exact .beat state _
  · exact .refl state

/-- the main flow does not go on when it is over -/
theorem advance_over (site : Site) (h : state.flow.isOver = true) : advance site state = state := by
  unfold advance
  cases hflow : state.flow with
  | left stage signal => rfl
  | ended outcome => rfl
  | _ => rw [hflow] at h; cases h

/-! ## The main flow looks for the signal -/

theorem stage?_over {flow : Flow} (h : flow.isOver = true) : flow.stage? = none := by
  cases flow with
  | left stage signal => rfl
  | ended outcome => rfl
  | _ => cases h

theorem over_of_stage? {flow : Flow} {stage : Stage} (h : flow.stage? = some stage) : flow.isOver = false := by
  cases hover : flow.isOver with
  | false => rfl
  | true => rw [stage?_over hover] at h; cases h

/-- the main flow does not wait, or goes on waiting, or leaves with the signal that is there -/
theorem look_cases (state : State) :
    look state = state ∨ ∃ stage, state.flow.stage? = some stage ∧
      (look state = { state with receiver := (state.channel.look state.receiver).1 } ∨
      ∃ signal log, (state.channel.look state.receiver).2 = .ready signal ∧
        look state =
          { state with receiver := (state.channel.look state.receiver).1, flow := .left stage signal, log }) := by
  unfold look
  cases hstage : state.flow.stage? with
  | none => exact .inl rfl
  | some stage =>
    refine .inr ⟨stage, rfl, ?_⟩
    obtain ⟨receiver, seen⟩ := state.channel.look state.receiver
    cases seen with
    | ready signal => exact .inr ⟨signal, _, rfl, rfl⟩
    | again => exact .inl rfl
    | pending => exact .inl rfl

/-! ## Interleavings -/

/-- what every move keeps, any moves keep -/
theorem moves_keep {P : State → Prop} (hstep : ∀ state move, P state → P (step site state move)) (h : P state)
    (moves : List Move) : P (moves.foldl (step site) state) := by
  induction moves generalizing state with
  | nil => exact h
  | cons move rest ih => exact ih (hstep state move h)

/-- **Once the main flow is over** it stays where it is and says nothing more. -/
theorem over_step (h : state.flow.isOver = true) (move : Move) :
    (step site state move).flow = state.flow ∧ (step site state move).said = state.said := by
  cases move with
  | deliver signal => exact ⟨rfl, rfl⟩
  | listen signal =>
    obtain ⟨listener, channel, output, log, hlisten, hsaid⟩ := listen_frame state signal
    have hmove : step site state (.listen signal) = _ := hlisten
    rw [hmove]
    exact ⟨rfl, hsaid⟩
  | work count =>
    obtain ⟨worker, tree, log, hwork⟩ := work_frame site state count
    have hmove : step site state (.work count) = _ := hwork
    rw [hmove]
    exact ⟨rfl, rfl⟩
  | advance =>
    have hmove : step site state .advance = state := advance_over site h
    rw [hmove]
    exact ⟨rfl, rfl⟩
  | look =>
    have hmove : step site state .look = state := by
      rcases look_cases state with hsame | ⟨stage, hstage, -⟩
      · exact hsame
      · rw [stage?_over h] at hstage; cases hstage
    rw [hmove]
    exact ⟨rfl, rfl⟩

end BlockProbe.Command.Shutdown
