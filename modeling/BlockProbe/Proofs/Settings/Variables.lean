/-
Variables taken one after the other, whether or not all of them can be.

A variable that is set is accepted or refused, whatever the settings before it. The first that is refused ends the
taking, and what the variables in front of it made of the settings stays.

- `applyEach_accepted`: accepted variables replace each its own setting, and nothing else.
- `accepted_or_first_refused`: either all are accepted, or one is the first to be refused.
- `overrides_first_refused`: then the ones in front of it alone are taken.
- `overrides_prefixUpdate`: the state and the answer after any attempt, and that no trace of an attempt is left once
  its variables are all set anew.
-/
import Mathlib
import BlockProbe.Proofs.Settings.Overrides

namespace BlockProbe.Settings

/-- the variables that replace a setting each -/
inductive Variable where
  | interval
  | verify
  | sync
  | level
deriving DecidableEq, Repr

namespace Variable

/-- all variables, in the order they are taken -/
def all : List Variable := [.interval, .verify, .sync, .level]

/-- what it is called in an environment -/
def name : Variable → String
  | .interval => "NVPROBE_HEARTBEAT_SECS"
  | .verify => "NVPROBE_VERIFY"
  | .sync => "NVPROBE_SYNC"
  | .level => "NVPROBE_LOG"

/-- how it is taken -/
def override : Variable → Override
  | .interval => intervalOverride
  | .verify => verifyOverride
  | .sync => syncOverride
  | .level => levelOverride

/-- its setting is what the text reads as -/
def Shows : Variable → String → Settings → Prop
  | .interval, text, settings => readInterval text = .ok settings.heartbeat.intervalSecs
  | .verify, text, settings => parseBoolean "NVPROBE_VERIFY" text = .ok settings.probe.verify
  | .sync, text, settings => parseBoolean "NVPROBE_SYNC" text = .ok settings.probe.sync
  | .level, text, settings => Level.parse text = .ok settings.log.level

/-- its setting is the same in both -/
def Same : Variable → Settings → Settings → Prop
  | .interval, first, second => first.heartbeat.intervalSecs = second.heartbeat.intervalSecs
  | .verify, first, second => first.probe.verify = second.probe.verify
  | .sync, first, second => first.probe.sync = second.probe.sync
  | .level, first, second => first.log.level = second.log.level

/-- the text reads as a value -/
def Accepts : Variable → String → Prop
  | .interval, text => ∃ secs, readInterval text = .ok secs
  | .verify, text => ∃ verify, parseBoolean "NVPROBE_VERIFY" text = .ok verify
  | .sync, text => ∃ sync, parseBoolean "NVPROBE_SYNC" text = .ok sync
  | .level, text => ∃ level, Level.parse text = .ok level

/-- what is said of a text that does not -/
def refusal : Variable → String → Invalid
  | .interval, text => .notNumber "NVPROBE_HEARTBEAT_SECS" text
  | .verify, text => .notBoolean "NVPROBE_VERIFY" (Text.trimmed text).toLower
  | .sync, text => .notBoolean "NVPROBE_SYNC" (Text.trimmed text).toLower
  | .level, text => .level ("unknown log level: " ++ text.toLower)

/-- the variables taken before it -/
def earlier (which : Variable) : List Variable := all.takeWhile (· ≠ which)

/-- it is not set, or to a text that it accepts -/
def Accepted (environment : Environment) (which : Variable) : Prop :=
  ∀ text, environment which.name = some text → which.Accepts text

/-- it is set to a text that it refuses, for this reason -/
def Refused (environment : Environment) (which : Variable) (reason : Invalid) : Prop :=
  ∃ text, environment which.name = some text ∧ ¬ which.Accepts text ∧ reason = which.refusal text

/-- it is refused, and none before it is -/
def FirstRefused (environment : Environment) (which : Variable) (reason : Invalid) : Prop :=
  which.Refused environment reason ∧ ∀ before ∈ which.earlier, before.Accepted environment

theorem mem_all (which : Variable) : which ∈ all := by
  cases which <;> decide

theorem all_nodup : all.Nodup := by decide

theorem override_name (which : Variable) : which.override.name = which.name := by
  cases which <;> rfl

theorem overrides_eq : overrides = all.map override := rfl

theorem refused_of_not_accepted {environment : Environment} {which : Variable} (h : ¬ which.Accepted environment) :
    ∃ reason, which.Refused environment reason := by
  unfold Accepted at h
  push Not at h
  obtain ⟨text, htext, hnot⟩ := h
  exact ⟨which.refusal text, text, htext, hnot, rfl⟩

variable {which other : Variable} {text : String} {first second third : Settings}

theorem Same.refl (which : Variable) (settings : Settings) : which.Same settings settings := by
  cases which <;> rfl

theorem Same.symm (h : which.Same first second) : which.Same second first := by
  cases which <;> exact Eq.symm h

theorem Same.trans (h : which.Same first second) (hnext : which.Same second third) : which.Same first third := by
  cases which <;> exact Eq.trans h hnext

theorem Shows.of_same (h : which.Shows text first) (hsame : which.Same first second) : which.Shows text second := by
  cases which <;> exact Eq.trans h (congrArg Except.ok hsame)

/-- what shows the same text is the same -/
theorem Shows.same (h : which.Shows text first) (hother : which.Shows text second) : which.Same first second := by
  cases which <;> exact Except.ok.inj (h.symm.trans hother)

end Variable

/-- the settings that no variable replaces are the same in both -/
def SameUnnamed (first second : Settings) : Prop :=
  first.probe.fileMode = second.probe.fileMode ∧ first.heartbeat.message = second.heartbeat.message

theorem SameUnnamed.symm {first second : Settings} (h : SameUnnamed first second) : SameUnnamed second first :=
  ⟨h.1.symm, h.2.symm⟩

theorem SameUnnamed.trans {first second third : Settings} (h : SameUnnamed first second)
    (hnext : SameUnnamed second third) : SameUnnamed first third :=
  ⟨h.1.trans hnext.1, h.2.trans hnext.2⟩

/-- settings are what the variables replace, and the rest -/
theorem settings_ext {first second : Settings} (h : ∀ which : Variable, which.Same first second)
    (hunnamed : SameUnnamed first second) : first = second := by
  obtain ⟨⟨mode, verify, sync⟩, ⟨secs, message⟩, ⟨level⟩⟩ := first
  obtain ⟨⟨otherMode, otherVerify, otherSync⟩, ⟨otherSecs, otherMessage⟩, ⟨otherLevel⟩⟩ := second
  obtain ⟨rfl, rfl⟩ := hunnamed
  obtain rfl : secs = otherSecs := h .interval
  obtain rfl : verify = otherVerify := h .verify
  obtain rfl : sync = otherSync := h .sync
  obtain rfl : level = otherLevel := h .level
  rfl

/-! ## One variable -/

theorem parseBoolean_eq_error {name text : String} {reason : Invalid} (h : parseBoolean name text = .error reason) :
    reason = .notBoolean name (Text.trimmed text).toLower := by
  unfold parseBoolean at h
  split at h
  all_goals cases h
  rfl

theorem parseLevel_eq_error {text reason : String} (h : Level.parse text = .error reason) :
    reason = "unknown log level: " ++ text.toLower := by
  unfold Level.parse at h
  split at h
  all_goals cases h
  rfl

namespace Variable

variable {which : Variable} {text : String}

/-- a variable that is accepted replaces its setting and no other -/
theorem apply_accepted (h : which.Accepts text) (before : Settings) :
    ∃ after, which.override.apply text before = .ok after ∧ which.Shows text after ∧
      (∀ other, other ≠ which → other.Same before after) ∧ SameUnnamed before after := by
  cases which with
  | interval =>
    obtain ⟨secs, hread⟩ := h
    refine ⟨{ before with heartbeat.intervalSecs := secs }, ?_, hread, fun other hne => ?_, rfl, rfl⟩
    · unfold readInterval at hread
      simp only [override, intervalOverride, hread]
    · cases other with
      | interval => exact (hne rfl).elim
      | _ => rfl
  | verify =>
    obtain ⟨verify, hread⟩ := h
    refine ⟨{ before with probe.verify := verify }, map_eq_ok.2 ⟨verify, hread, rfl⟩, hread, fun other hne => ?_, rfl,
      rfl⟩
    cases other with
    | verify => exact (hne rfl).elim
    | _ => rfl
  | sync =>
    obtain ⟨sync, hread⟩ := h
    refine ⟨{ before with probe.sync := sync }, map_eq_ok.2 ⟨sync, hread, rfl⟩, hread, fun other hne => ?_, rfl, rfl⟩
    cases other with
    | sync => exact (hne rfl).elim
    | _ => rfl
  | level =>
    obtain ⟨level, hread⟩ := h
    refine ⟨{ before with log.level := level }, ?_, hread, fun other hne => ?_, rfl, rfl⟩
    · simp only [override, levelOverride, hread]
    · cases other with
      | level => exact (hne rfl).elim
      | _ => rfl

/-- a variable that is refused is refused whatever there was before -/
theorem apply_refused (h : ¬ which.Accepts text) (before : Settings) :
    which.override.apply text before = .error (which.refusal text) := by
  cases which with
  | interval =>
    obtain ⟨malformed, hread⟩ := error_of_not_ok h
    unfold readInterval at hread
    simp only [override, intervalOverride, hread, refusal]
  | verify =>
    obtain ⟨reason, hread⟩ := error_of_not_ok h
    cases parseBoolean_eq_error hread
    exact map_eq_error.2 hread
  | sync =>
    obtain ⟨reason, hread⟩ := error_of_not_ok h
    cases parseBoolean_eq_error hread
    exact map_eq_error.2 hread
  | level =>
    obtain ⟨reason, hread⟩ := error_of_not_ok h
    simp only [override, levelOverride, hread, refusal, parseLevel_eq_error hread]

end Variable

/-! ## Variables in turn -/

/-- the settings after some of the variables were taken: theirs are what they read as, the others what they were -/
structure Overridden (environment : Environment) (taken : List Variable) (before after : Settings) : Prop where
  shown : ∀ which ∈ taken, ∀ text, environment which.name = some text → which.Shows text after
  kept : ∀ which : Variable, which ∉ taken ∨ environment which.name = none → which.Same before after
  unnamed : SameUnnamed before after

variable {environment : Environment} {taken : List Variable} {which : Variable} {before middle after : Settings}

theorem Overridden.nil (environment : Environment) (settings : Settings) :
    Overridden environment [] settings settings :=
  ⟨fun _ h => (List.not_mem_nil h).elim, fun which _ => .refl which settings, rfl, rfl⟩

/-- a variable that is not set leaves no trace -/
theorem Overridden.cons_unset (hunset : environment which.name = none) (h : Overridden environment taken before after) :
    Overridden environment (which :: taken) before after where
  shown other hmem text htext := by
    rcases List.mem_cons.1 hmem with rfl | hmem
    · rw [hunset] at htext; cases htext
    · exact h.shown other hmem text htext
  kept other hother := h.kept other (hother.imp_left fun hnot hmem => hnot (List.mem_cons_of_mem which hmem))
  unnamed := h.unnamed

/-- a variable that is taken first keeps its setting while the others are taken -/
theorem Overridden.cons_set {text : String} (hset : environment which.name = some text) (hnew : which ∉ taken)
    (hshown : which.Shows text middle) (hothers : ∀ other, other ≠ which → other.Same before middle)
    (hunnamed : SameUnnamed before middle) (h : Overridden environment taken middle after) :
    Overridden environment (which :: taken) before after where
  shown other hmem given hgiven := by
    rcases List.mem_cons.1 hmem with rfl | hmem
    · cases hset.symm.trans hgiven
      exact hshown.of_same (h.kept other (.inl hnew))
    · exact h.shown other hmem given hgiven
  kept other hother := by
    have hne : other ≠ which := by
      rintro rfl
      rcases hother with hnot | hnone
      · exact hnot List.mem_cons_self
      · rw [hset] at hnone; cases hnone
    exact (hothers other hne).trans
      (h.kept other (hother.imp_left fun hnot hmem => hnot (List.mem_cons_of_mem which hmem)))
  unnamed := hunnamed.trans h.unnamed

/-- **Variables that are all accepted** replace each its own setting. -/
theorem applyEach_accepted (hd : taken.Nodup) (h : ∀ which ∈ taken, which.Accepted environment) (before : Settings) :
    ∃ after, applyEach environment (taken.map Variable.override) before = (after, .ok ()) ∧
      Overridden environment taken before after := by
  induction taken generalizing before with
  | nil => exact ⟨before, rfl, .nil environment before⟩
  | cons which rest ih =>
    obtain ⟨hnew, hrest⟩ := List.nodup_cons.1 hd
    have hlater := ih hrest fun later hmem => h later (List.mem_cons_of_mem which hmem)
    rw [List.map_cons, applyEach, which.override_name]
    cases hset : environment which.name with
    | none =>
      obtain ⟨after, happly, htaken⟩ := hlater before
      exact ⟨after, happly, htaken.cons_unset hset⟩
    | some text =>
      obtain ⟨middle, hfirst, hshown, hothers, hunnamed⟩ :=
        Variable.apply_accepted (h which List.mem_cons_self text hset) before
      obtain ⟨after, happly, htaken⟩ := hlater middle
      refine ⟨after, ?_, htaken.cons_set hset hnew hshown hothers hunnamed⟩
      dsimp only
      rw [hfirst]
      exact happly

/-- overrides that are taken leave the rest to be taken from where they left -/
theorem applyEach_append {environment : Environment} {first : List Override} {before middle : Settings}
    (h : applyEach environment first before = (middle, .ok ())) (rest : List Override) :
    applyEach environment (first ++ rest) before = applyEach environment rest middle := by
  induction first generalizing before with
  | nil => cases h; rfl
  | cons override first ih =>
    rw [List.cons_append, applyEach]
    rw [applyEach] at h
    cases hset : environment override.name with
    | none => rw [hset] at h; exact ih h
    | some text =>
      rw [hset] at h
      dsimp only at h ⊢
      cases happly : override.apply text before with
      | error reason => rw [happly] at h; cases h
      | ok next => rw [happly] at h; exact ih h

theorem overrides_all_accepted (h : ∀ which : Variable, which.Accepted environment) (before : Settings) :
    ∃ after, applyOverrides environment before = (after, .ok ()) ∧
      Overridden environment Variable.all before after :=
  applyEach_accepted Variable.all_nodup (fun which _ => h which) before

/-- **The first variable that is refused** ends the taking, with the ones in front of it taken. -/
theorem overrides_first_refused {reason : Invalid} (h : which.FirstRefused environment reason) (before : Settings) :
    ∃ after, applyOverrides environment before = (after, .error reason) ∧
      Overridden environment which.earlier before after := by
  obtain ⟨⟨text, hset, hnot, rfl⟩, hearlier⟩ := h
  obtain ⟨rest, hsplit⟩ : ∃ rest, Variable.all = which.earlier ++ which :: rest := split_before which.mem_all
  have hd : which.earlier.Nodup := Variable.all_nodup.sublist (List.takeWhile_sublist _)
  obtain ⟨after, happly, htaken⟩ := applyEach_accepted hd hearlier before
  refine ⟨after, ?_, htaken⟩
  unfold applyOverrides
  rw [Variable.overrides_eq, hsplit, List.map_append, applyEach_append happly, List.map_cons, applyEach,
    which.override_name, hset]
  dsimp only
  rw [Variable.apply_refused hnot]

/-- all variables are accepted, or one is the first to be refused -/
theorem accepted_or_first_refused (environment : Environment) :
    (∀ which : Variable, which.Accepted environment) ∨
      ∃ which reason, Variable.FirstRefused environment which reason := by
  rcases all_or_first (Variable.Accepted environment) Variable.all with hall | ⟨which, -, hnot, hearlier⟩
  · exact .inl fun which => hall which which.mem_all
  · obtain ⟨reason, hrefused⟩ := Variable.refused_of_not_accepted hnot
    exact .inr ⟨which, reason, hrefused, hearlier⟩

/-- an attempt, however it ends, leaves alone what its variables do not name -/
theorem overrides_kept (environment : Environment) (before : Settings) :
    (∀ which : Variable, environment which.name = none → which.Same before (applyOverrides environment before).1) ∧
      SameUnnamed before (applyOverrides environment before).1 := by
  rcases accepted_or_first_refused environment with hall | ⟨which, reason, hfirst⟩
  · obtain ⟨after, happly, htaken⟩ := overrides_all_accepted hall before
    rw [happly]
    exact ⟨fun which hnone => htaken.kept which (.inr hnone), htaken.unnamed⟩
  · obtain ⟨after, happly, htaken⟩ := overrides_first_refused hfirst before
    rw [happly]
    exact ⟨fun which hnone => htaken.kept which (.inr hnone), htaken.unnamed⟩

/-- settings that differ in what is overridden only are the same once it is -/
theorem overrides_congr (haccepted : ∀ which : Variable, which.Accepted environment) {first second : Settings}
    (h : ∀ which : Variable, environment which.name = none → which.Same first second)
    (hunnamed : SameUnnamed first second) : applyOverrides environment second = applyOverrides environment first := by
  obtain ⟨afterFirst, hfirst, htaken⟩ := overrides_all_accepted haccepted first
  obtain ⟨afterSecond, hsecond, htakenSecond⟩ := overrides_all_accepted haccepted second
  have hsame : afterSecond = afterFirst := by
    refine settings_ext (fun which => ?_) ?_
    · cases hset : environment which.name with
      | none =>
        have hbelow := (htaken.kept which (.inr hset)).symm.trans (h which hset)
        exact (hbelow.trans (htakenSecond.kept which (.inr hset))).symm
      | some text =>
        exact (htakenSecond.shown which which.mem_all text hset).same (htaken.shown which which.mem_all text hset)
    · exact ((htaken.unnamed.symm.trans hunnamed).trans htakenSecond.unnamed).symm
  rw [hfirst, hsecond, hsame]

/-! ## Any attempt -/

/-- what an attempt to take all variables comes to, and what a later one makes of the settings it left -/
structure PrefixUpdate (environment : Environment) (before : Settings) : Prop where
  /-- variables that are all accepted replace exactly their settings -/
  accepted : (∀ which : Variable, which.Accepted environment) →
    (applyOverrides environment before).2 = .ok () ∧
      Overridden environment Variable.all before (applyOverrides environment before).1
  /-- the first that is refused is reported, and exactly the settings of those in front of it are replaced -/
  refused : ∀ which reason, Variable.FirstRefused environment which reason →
    (applyOverrides environment before).2 = .error reason ∧
      Overridden environment which.earlier before (applyOverrides environment before).1
  either : (∀ which : Variable, which.Accepted environment) ∨
    ∃ which reason, Variable.FirstRefused environment which reason
  /-- an attempt leaves no trace in what its variables, all set anew, make of the settings -/
  again : ∀ later : Environment,
    (∀ which : Variable, (environment which.name).isSome → (later which.name).isSome) →
    (∀ which : Variable, which.Accepted later) →
    applyOverrides later (applyOverrides environment before).1 = applyOverrides later before
  /-- variables that are all accepted make the same of settings when they are taken twice -/
  twice : (∀ which : Variable, which.Accepted environment) →
    applyOverrides environment (applyOverrides environment before).1 = applyOverrides environment before

/-- **Taking the variables is a prefix update, and a failed attempt does not stick.** -/
theorem overrides_prefixUpdate (environment : Environment) (before : Settings) : PrefixUpdate environment before := by
  obtain ⟨hkept, hunnamed⟩ := overrides_kept environment before
  refine ⟨?_, ?_, accepted_or_first_refused environment, ?_, ?_⟩
  · intro haccepted
    obtain ⟨after, happly, htaken⟩ := overrides_all_accepted haccepted before
    rw [happly]
    exact ⟨rfl, htaken⟩
  · intro which reason hfirst
    obtain ⟨after, happly, htaken⟩ := overrides_first_refused hfirst before
    rw [happly]
    exact ⟨rfl, htaken⟩
  · intro later hsets haccepted
    refine overrides_congr haccepted (fun which hnone => hkept which ?_) hunnamed
    -- what the later attempt does not set, this one did not set either
    by_contra hset
    have hlater := hsets which (Option.isSome_iff_ne_none.2 hset)
    rw [hnone] at hlater
    cases hlater
  · intro haccepted
    exact overrides_congr haccepted hkept hunnamed

/-! An attempt that stops at its third variable, and one that sets them all again. -/

def stoppedEnvironment : Environment
  | "NVPROBE_HEARTBEAT_SECS" => some " +007\n"
  | "NVPROBE_VERIFY" => some "Off"
  | "NVPROBE_SYNC" => some " Maybe "
  | "NVPROBE_LOG" => some "loud"
  | _ => none

def resumedEnvironment : Environment
  | "NVPROBE_HEARTBEAT_SECS" => some "3"
  | "NVPROBE_VERIFY" => some "YES"
  | "NVPROBE_SYNC" => some "1"
  | "NVPROBE_LOG" => some "Warning"
  | _ => none

theorem stopped_firstRefused :
    Variable.sync.FirstRefused stoppedEnvironment (.notBoolean "NVPROBE_SYNC" "maybe") := by
  refine ⟨⟨" Maybe ", rfl, ?_, by cbv⟩, ?_⟩
  · rintro ⟨sync, hread⟩
    have hrefused : parseBoolean "NVPROBE_SYNC" " Maybe " = .error (.notBoolean "NVPROBE_SYNC" "maybe") := by cbv
    rw [hrefused] at hread
    cases hread
  · intro earlier hmem text htext
    have hcases : earlier = .interval ∨ earlier = .verify := by simpa [Variable.earlier, Variable.all] using hmem
    rcases hcases with rfl | rfl
    · cases htext
      exact ⟨7, by cbv⟩
    · cases htext
      exact ⟨false, by cbv⟩

theorem resumed_accepted (which : Variable) : which.Accepted resumedEnvironment := by
  intro text htext
  cases which with
  | interval => cases htext; exact ⟨3, by cbv⟩
  | verify => cases htext; exact ⟨true, by cbv⟩
  | sync => cases htext; exact ⟨true, by cbv⟩
  | level => cases htext; exact ⟨.warn, by cbv⟩

theorem stopped_then_resumed :
    (applyOverrides stoppedEnvironment {}).2 = .error (.notBoolean "NVPROBE_SYNC" "maybe") ∧
    Overridden stoppedEnvironment [.interval, .verify] {} (applyOverrides stoppedEnvironment {}).1 ∧
    applyOverrides resumedEnvironment (applyOverrides stoppedEnvironment {}).1 = applyOverrides resumedEnvironment {} ∧
    applyOverrides resumedEnvironment (applyOverrides resumedEnvironment {}).1 =
      applyOverrides resumedEnvironment {} := by
  have hstopped := overrides_prefixUpdate stoppedEnvironment {}
  obtain ⟨hreason, htaken⟩ := hstopped.refused .sync _ stopped_firstRefused
  have hsets : ∀ which : Variable, (stoppedEnvironment which.name).isSome → (resumedEnvironment which.name).isSome := by
    intro which _
    cases which <;> rfl
  exact ⟨hreason, htaken, hstopped.again resumedEnvironment hsets resumed_accepted,
    (overrides_prefixUpdate resumedEnvironment {}).twice resumed_accepted⟩

end BlockProbe.Settings
