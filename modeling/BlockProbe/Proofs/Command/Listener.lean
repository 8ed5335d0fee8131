/-
No termination signal is lost, announced twice or taken for another.

`Publishes` says what the channel holds, by where the listener is: nothing until it has sent its signal, and that signal
from then on, unless nobody was left to receive it. `Sound` is the invariant of every interleaving: a signal the
listener heard was delivered, it is announced once, and the main flow's call for the signal attends the channel.

- `sound_step`: each move keeps the invariant.
- `Reached.sound`: it holds at every moment of a run.
- `signal_ends_wait`: a signal takes the main flow out of every stage, wherever its worker hangs.
- `one_request`: what follows for signals, announcements and calls.
-/
import BlockProbe.Proofs.Command.Channel
import BlockProbe.Proofs.Command.Moves
import BlockProbe.Proofs.Command.Outcome
import Mathlib

namespace BlockProbe.Command.Shutdown

variable {site : Site} {arguments : List String} {state after : State} {signal : Signal} {channel : Channel Signal}

/-- the signal the listener has heard -/
def Listener.signal? : Listener → Option Signal
  | .waiting => none
  | .woken signal => some signal
  | .announced signal => some signal
  | .logged signal => some signal
  | .sent signal => some signal
  | .gone signal => some signal

/-- how often the listener has announced a signal -/
def Listener.announcements : Listener → Nat
  | .waiting => 0
  | .woken _ => 0
  | _ => 1

/-- what the channel holds by where the listener is; `isOver` says whether the main flow is over -/
inductive Publishes (isOver : Bool) : Listener → Channel Signal → Prop
  | waiting : Publishes isOver .waiting {}
  | woken (signal : Signal) : Publishes isOver (.woken signal) {}
  | announced (signal : Signal) : Publishes isOver (.announced signal) {}
  | logged (signal : Signal) : Publishes isOver (.logged signal) {}
  | sent (signal : Signal) : Publishes isOver (.sent signal) (Channel.publish {} signal)
  | unobserved (signal : Signal) (hover : isOver = true) : Publishes isOver (.sent signal) {}
  | gone (signal : Signal) : Publishes isOver (.gone signal) (Channel.publish {} signal).close
  | goneUnobserved (signal : Signal) (hover : isOver = true) : Publishes isOver (.gone signal) (Channel.close {})

/-- what holds at every moment -/
structure Sound (state : State) : Prop where
  heard : ∀ signal, state.listener.signal? = some signal → signal ∈ state.delivered
  announced : state.output.count .exiting = state.listener.announcements
  published : Publishes state.flow.isOver state.listener state.channel
  attends : state.flow.isOver = false → state.channel.Attends state.receiver
  left : ∀ stage signal, state.flow = .left stage signal → state.channel.value = some signal

/-! ## What the channel holds -/

theorem Publishes.of_value {isOver : Bool} {listener : Listener} (h : Publishes isOver listener channel)
    (hvalue : channel.value = some signal) : listener.signal? = some signal ∧ listener.announcements = 1 := by
  cases h with
  | sent other => cases hvalue; exact ⟨rfl, rfl⟩
  | gone other => cases hvalue; exact ⟨rfl, rfl⟩
  | _ => cases hvalue

/-- while the main flow goes on, a channel without a value still has its sending side -/
theorem Publishes.not_closed {listener : Listener} (h : Publishes false listener channel)
    (hvalue : channel.value = none) : channel.closed = false := by
  cases h with
  | gone other => cases hvalue
  | goneUnobserved _ hover => cases hover
  | _ => rfl

theorem Publishes.later {isOver : Bool} {listener : Listener} (h : Publishes isOver listener channel) (later : Bool)
    (hlater : isOver = true → later = true) : Publishes later listener channel := by
  cases h with
  | waiting => exact .waiting
  | woken signal => exact .woken signal
  | announced signal => exact .announced signal
  | logged signal => exact .logged signal
  | sent signal => exact .sent signal
  | unobserved signal hover => exact .unobserved signal (hlater hover)
  | gone signal => exact .gone signal
  | goneUnobserved signal hover => exact .goneUnobserved signal (hlater hover)

/-! ## One move -/

theorem sound_start (site : Site) (arguments : List String) : Sound (start site arguments) where
  heard := by simp [start, Listener.signal?]
  announced := rfl
  published := .waiting
  attends := fun _ => ⟨Nat.le_refl _, .inl rfl⟩
  left := by simp [start]

theorem Sound.deliver (h : Sound state) (signal : Signal) :
    Sound { state with delivered := state.delivered ++ [signal] } :=
  { h with heard := fun heard hheard => List.mem_append.2 (.inl (h.heard heard hheard)) }

theorem Sound.listen (h : Sound state) (signal : Signal) : Sound (listen state signal) := by
  obtain ⟨delivered, listener, channel, receiver, worker, flow, output, complaints, filter, log, tree⟩ := state
  obtain ⟨hheard, hannounced, hpublished, hattends, hleft⟩ := h
  dsimp only at hheard hannounced hpublished hattends hleft
  cases hpublished with
  | waiting =>
    unfold Shutdown.listen
    dsimp only
    split_ifs with hdelivered
    · exact ⟨by rintro _ ⟨⟩; exact hdelivered, hannounced, .woken signal, hattends, hleft⟩
    · exact ⟨hheard, hannounced, .waiting, hattends, hleft⟩
  | woken heard =>
    have hcount : (output ++ [Line.exiting]).count Line.exiting = 1 := by
      rw [List.count_append, hannounced]
      rfl
    exact ⟨hheard, hcount, .announced heard, hattends, hleft⟩
  | announced heard => exact ⟨hheard, hannounced, .logged heard, hattends, hleft⟩
  | logged heard =>
    -- to leave takes a published signal, and there is none yet
    have hnotLeft : ∀ stage signal, flow ≠ .left stage signal := by
      rintro stage signal rfl
      cases hleft stage signal rfl
    unfold Shutdown.listen
    dsimp only [send]
    split_ifs with hover
    · exact ⟨hheard, hannounced, .unobserved heard hover, hattends, hleft⟩
    · exact ⟨hheard, hannounced, .sent heard, fun hon => (hattends hon).publish heard,
        fun stage signal hflow => (hnotLeft stage signal hflow).elim⟩
  | sent heard => exact ⟨hheard, hannounced, .gone heard, fun hon => (hattends hon).close, hleft⟩
  | unobserved heard hover =>
    exact ⟨hheard, hannounced, .goneUnobserved heard hover, fun hon => (hattends hon).close, hleft⟩
  | gone heard => exact ⟨hheard, hannounced, .gone heard, hattends, hleft⟩
  | goneUnobserved heard hover => exact ⟨hheard, hannounced, .goneUnobserved heard hover, hattends, hleft⟩

theorem Sound.work (h : Sound state) (site : Site) (count : Nat) : Sound (work site state count) := by
  obtain ⟨worker, tree, log, hwork⟩ := work_frame site state count
  rw [hwork]
  exact ⟨h.heard, h.announced, h.published, h.attends, h.left⟩

theorem Sound.advance (h : Sound state) (site : Site) : Sound (advance site state) := by
  cases hover : state.flow.isOver with
  | true => rwa [advance_over site hover]
  | false =>
    obtain ⟨hdelivered, hlistener, hchannel, -, hreceiver, ⟨lines, hlines, houtput⟩, hleft⟩ :=
      advance_advances site state
    refine ⟨?_, ?_, ?_, ?_, ?_⟩
    · rw [hdelivered, hlistener]
      exact h.heard
    · rw [houtput, hlistener, List.count_append, List.count_eq_zero.2 hlines]
      exact h.announced
    · -- the main flow may be over now, which only lets the channel hold less
      rw [hlistener, hchannel]
      exact h.published.later _ (by simp [hover])
    · intro _
      rw [hchannel]
      rcases hreceiver with hsame | hanew
      · rw [hsame]; exact h.attends hover
      · rw [hanew]; exact (h.attends hover).calling
    · intro stage signal hflow
      rw [hchannel]
      exact h.left stage signal (hleft stage signal hflow)

theorem Sound.look (h : Sound state) : Sound (look state) := by
  rcases look_cases state with hsame | ⟨stage, hstage, hwaits | ⟨signal, log, hready, hleaves⟩⟩
  · rwa [hsame]
  · have hover := over_of_stage? hstage
    have hpublished : Publishes false state.listener state.channel := hover ▸ h.published
    rw [hwaits]
    exact { h with attends := fun _ => (h.attends hover).look hpublished.not_closed }
  · have hvalue : state.channel.value = some signal := Channel.look_ready (Prod.ext rfl hready)
    rw [hleaves]
    refine ⟨h.heard, h.announced, h.published.later true (fun _ => rfl), by simp [Flow.isOver], ?_⟩
    rintro _ _ ⟨⟩
    exact hvalue

/-- **Every move keeps the invariant.** -/
theorem sound_step (site : Site) (state : State) (move : Move) (h : Sound state) : Sound (step site state move) := by
  cases move with
  | deliver signal => exact h.deliver signal
  | listen signal => exact h.listen signal
  | work count => exact h.work site count
  | advance => exact h.advance site
  | look => exact h.look

/-- a moment of a run: what any moves in any order lead to -/
def Reached (site : Site) (arguments : List String) (state : State) : Prop :=
  ∃ moves, steps site arguments moves = state

theorem Reached.sound (h : Reached site arguments state) : Sound state := by
  obtain ⟨moves, rfl⟩ := h
  exact moves_keep (sound_step site) (sound_start site arguments) moves

/-! ## The published signal -/

/-- what the listener does to the channel's value: nothing, or it publishes the signal it has announced -/
theorem Sound.listen_value (h : Sound state) (signal : Signal) :
    (Shutdown.listen state signal).channel.value = state.channel.value ∨
      state.channel.value = none ∧ .exiting ∈ state.output ∧
        ∃ heard ∈ state.delivered, (Shutdown.listen state signal).channel.value = some heard := by
  obtain ⟨delivered, listener, channel, receiver, worker, flow, output, complaints, filter, log, tree⟩ := state
  obtain ⟨hheard, hannounced, hpublished, -, -⟩ := h
  dsimp only at hheard hannounced hpublished
  cases hpublished with
  | waiting =>
    refine .inl ?_
    unfold Shutdown.listen
    dsimp only
    split_ifs <;> rfl
  | logged heard =>
    have hexiting : Line.exiting ∈ output := List.count_pos_iff.1 (by rw [hannounced]; exact Nat.one_pos)
    unfold Shutdown.listen
    dsimp only [send]
    split_ifs
    · exact .inl rfl
    · exact .inr ⟨rfl, hexiting, heard, hheard heard rfl, rfl⟩
  | _ => exact .inl rfl

/-- only the listener touches the channel -/
theorem step_channel (site : Site) (state : State) {move : Move} (h : ∀ signal, move ≠ .listen signal) :
    (step site state move).channel = state.channel := by
  cases move with
  | deliver signal => rfl
  | listen signal => exact (h signal rfl).elim
  | work count =>
    obtain ⟨worker, tree, log, hwork⟩ := work_frame site state count
    show (work site state count).channel = _
    rw [hwork]
  | advance => exact (advance_advances site state).channel
  | look =>
    show (look state).channel = _
    rcases look_cases state with hsame | ⟨stage, -, hwaits | ⟨signal, log, -, hleaves⟩⟩
    · rw [hsame]
    · rw [hwaits]
    · rw [hleaves]

/-- **The channel changes from nothing to a signal** that was delivered and announced. -/
theorem Sound.step_value (h : Sound state) (site : Site) (move : Move) :
    (step site state move).channel.value = state.channel.value ∨
      state.channel.value = none ∧ .exiting ∈ state.output ∧
        ∃ signal ∈ state.delivered, (step site state move).channel.value = some signal := by
  cases move with
  | listen signal => exact h.listen_value signal
  | _ => exact .inl (congrArg Channel.value (step_channel site state (by simp)))

/-- **A published signal stays.** -/
theorem Sound.value_kept (h : Sound state) (hvalue : state.channel.value = some signal) (site : Site)
    (moves : List Move) : (moves.foldl (step site) state).channel.value = some signal := by
  have hstep : ∀ later move, Sound later ∧ later.channel.value = some signal →
      Sound (step site later move) ∧ (step site later move).channel.value = some signal := by
    rintro later move ⟨hlater, hvalueLater⟩
    refine ⟨sound_step site later move hlater, ?_⟩
    rcases hlater.step_value site move with hsame | ⟨hnone, -⟩
    · rw [hsame, hvalueLater]
    · rw [hvalueLater] at hnone; cases hnone
  exact (moves_keep hstep ⟨h, hvalue⟩ moves).2

/-- **The main flow leaves with the published signal.** -/
theorem Sound.step_left (h : Sound state) {move : Move} {stage : Stage}
    (hleft : (step site state move).flow = .left stage signal) : state.channel.value = some signal := by
  have hvalue := (sound_step site state move h).left stage signal hleft
  cases move with
  | listen heard =>
    obtain ⟨_, _, _, _, hlisten, -⟩ := listen_frame state heard
    have hflow : (Shutdown.listen state heard).flow = .left stage signal := hleft
    rw [hlisten] at hflow
    exact h.left stage signal hflow
  | _ => rwa [step_channel site state (by simp)] at hvalue

/-- **Looking leads to leaving.** Where the main flow waits while a call comes back with a signal, looking often enough
takes it out of its stage with that signal. -/
theorem looks_leave (site : Site) {stage : Stage} {receiver : Receiver} (hcall : channel.Completes receiver signal) :
    ∀ state : State, state.channel = channel → state.receiver = receiver → state.flow.stage? = some stage →
      ∃ looks, ((List.replicate looks Move.look).foldl (step site) state).flow = .left stage signal := by
  induction hcall with
  | now hlook =>
    rintro state rfl rfl hstage
    refine ⟨1, ?_⟩
    show (look state).flow = _
    unfold look
    simp only [hstage, hlook]
    rfl
  | @again _ next _ hlook _ ih =>
    rintro state rfl rfl hstage
    have hmove : step site state .look = { state with receiver := next } := by
      show look state = _
      unfold look
      simp only [hstage, hlook]
    obtain ⟨looks, hleft⟩ := ih { state with receiver := next } rfl rfl hstage
    refine ⟨looks + 1, ?_⟩
    rw [List.replicate_succ, List.foldl_cons, hmove]
    exact hleft

/-- while the main flow goes on, a listener that moves often enough publishes a signal -/
theorem Sound.listens (h : Sound state) (site : Site) (hon : state.flow.isOver = false)
    (hdelivered : signal ∈ state.delivered) :
    ∃ heard, ((List.replicate 4 (Move.listen signal)).foldl (step site) state).channel.value = some heard ∧
      ((List.replicate 4 (Move.listen signal)).foldl (step site) state).flow = state.flow := by
  obtain ⟨delivered, listener, channel, receiver, worker, flow, output, complaints, filter, log, tree⟩ := state
  have hpublished := h.published
  dsimp only at hon hdelivered hpublished
  rw [hon] at hpublished
  simp only [List.replicate, List.foldl_cons, List.foldl_nil, step]
  cases hpublished with
  | waiting => exact ⟨signal, by simp [Shutdown.listen, hdelivered, note, send, hon, Channel.publish]⟩
  | woken heard => exact ⟨heard, by simp [Shutdown.listen, note, send, hon, Channel.publish, Channel.close]⟩
  | announced heard => exact ⟨heard, by simp [Shutdown.listen, note, send, hon, Channel.publish, Channel.close]⟩
  | logged heard => exact ⟨heard, by simp [Shutdown.listen, send, hon, Channel.publish, Channel.close]⟩
  | sent heard => exact ⟨heard, rfl, rfl⟩
  | gone heard => exact ⟨heard, rfl, rfl⟩
  | unobserved _ hover => cases hover
  | goneUnobserved _ hover => cases hover

/-- **A signal ends every wait.** Wherever the main flow waits, and whatever it waits for, it exits with zero once a
signal is delivered and the listener and the main flow get their turns; the worker need not move at all. -/
theorem signal_ends_wait (h : Reached site arguments state) {stage : Stage} (hstage : state.flow.stage? = some stage)
    (signal : Signal) :
    ∃ looks, ((List.replicate looks Move.look).foldl (step site)
      ((List.replicate 4 (Move.listen signal)).foldl (step site) (step site state (.deliver signal)))).exitStatus? =
        some 0 := by
  have hon := over_of_stage? hstage
  have hdelivered : Sound (step site state (.deliver signal)) := h.sound.deliver signal
  obtain ⟨heard, hvalue, hflow⟩ := @Sound.listens _ signal hdelivered site hon (by simp [step])
  have hlistened := moves_keep (sound_step site) hdelivered (List.replicate 4 (Move.listen signal))
  have hwaits := (congrArg Flow.stage? hflow).trans hstage
  have hcall := (hlistened.attends (over_of_stage? hwaits)).completes hvalue
  obtain ⟨looks, hleft⟩ := looks_leave site hcall _ rfl rfl hwaits
  refine ⟨looks, ?_⟩
  unfold State.exitStatus?
  rw [hleft]

/-- **One request.** At every moment of a run:
- a move that changes the channel changes it from nothing to a signal that was delivered, after the signal is announced;
- what is published stays;
- a signal is announced once at most, and only if one was delivered;
- the main flow leaves a stage with the published signal only, and no call comes back with anything else;
- once a signal is published every call comes back with it, the one under way and any call yet to start, so wherever the
  main flow waits looking for the signal takes it out of its stage. -/
theorem one_request (h : Reached site arguments state) :
    (∀ move, (step site state move).channel.value ≠ state.channel.value →
      state.channel.value = none ∧ .exiting ∈ state.output ∧
        ∃ signal ∈ state.delivered, (step site state move).channel.value = some signal) ∧
    (∀ (signal : Signal) (moves : List Move), state.channel.value = some signal →
      signal ∈ state.delivered ∧ (moves.foldl (step site) state).channel.value = some signal) ∧
    state.output.count .exiting ≤ 1 ∧ (.exiting ∈ state.output → state.delivered ≠ []) ∧
    (∀ move stage signal, (step site state move).flow = .left stage signal → state.channel.value = some signal) ∧
    (∀ receiver signal, state.channel.Completes receiver signal → state.channel.value = some signal) ∧
    (∀ signal, state.channel.value = some signal →
      (∀ receiver : Receiver, state.channel.Completes receiver.calling signal) ∧
      (state.flow.isOver = false → state.channel.Completes state.receiver signal) ∧
      ∀ stage, state.flow.stage? = some stage →
        ∃ looks, ((List.replicate looks Move.look).foldl (step site) state).flow = .left stage signal) := by
  have hsound := h.sound
  refine ⟨?_, ?_, ?_, ?_, fun move _ _ hleft => hsound.step_left hleft, fun _ _ hcall => hcall.value_eq, ?_⟩
  · intro move hchanged
    exact (hsound.step_value site move).resolve_left hchanged
  · intro signal moves hvalue
    exact ⟨hsound.heard signal (hsound.published.of_value hvalue).1, hsound.value_kept hvalue site moves⟩
  · rw [hsound.announced]
    cases state.listener <;> simp [Listener.announcements]
  · intro hexiting hnone
    have hcount : 0 < state.listener.announcements := hsound.announced ▸ List.count_pos_iff.2 hexiting
    have hheard := hsound.heard
    rw [hnone] at hheard
    cases hlistener : state.listener with
    | waiting => rw [hlistener] at hcount; cases hcount
    | _ => rw [hlistener] at hheard; cases hheard _ rfl
  · intro signal hvalue
    refine ⟨fun receiver => Channel.completes_calling hvalue receiver,
      fun hon => (hsound.attends hon).completes hvalue, fun stage hstage => ?_⟩
    exact looks_leave site ((hsound.attends (over_of_stage? hstage)).completes hvalue) state rfl rfl hstage

/-! Two signals while the settings are read: the call under way comes back with the one that is heard. -/

def twoSignals : List Move :=
  [.deliver .terminate, .advance, .look, .deliver .interrupt, .listen .interrupt, .listen .terminate,
    .listen .terminate, .listen .terminate, .listen .terminate]

/-- the second of two signals is heard, announced once and published before the listener goes; the main flow, which has
looked in vain before, leaves with it -/
theorem twoSignals_one_request :
    Reached bareSite ["t"] (steps bareSite ["t"] twoSignals) ∧
    (steps bareSite ["t"] twoSignals).delivered = [.terminate, .interrupt] ∧
    (steps bareSite ["t"] twoSignals).listener = .gone .interrupt ∧
    (steps bareSite ["t"] twoSignals).receiver = { seen := 0, wait := .watching } ∧
    (steps bareSite ["t"] twoSignals).output = [.exiting] ∧
    Signal.interrupt ∈ (steps bareSite ["t"] twoSignals).delivered ∧
    (steps bareSite ["t"] twoSignals).channel.Completes (steps bareSite ["t"] twoSignals).receiver .interrupt ∧
    ∃ looks, ((List.replicate looks Move.look).foldl (step bareSite) (steps bareSite ["t"] twoSignals)).flow =
      .left .settings .interrupt := by
  have hreached : Reached bareSite ["t"] (steps bareSite ["t"] twoSignals) := ⟨twoSignals, rfl⟩
  have hvalue : (steps bareSite ["t"] twoSignals).channel.value = some .interrupt := by cbv
  have hstage : (steps bareSite ["t"] twoSignals).flow.stage? = some .settings := by cbv
  have hon : (steps bareSite ["t"] twoSignals).flow.isOver = false := by cbv
  obtain ⟨-, hkept, -, -, -, -, hcalls⟩ := one_request hreached
  obtain ⟨-, hcall, hleaves⟩ := hcalls .interrupt hvalue
  exact ⟨hreached, by cbv, by cbv, by cbv, by cbv, (hkept .interrupt [] hvalue).1, hcall hon, hleaves .settings hstage⟩

end BlockProbe.Command.Shutdown
