/-
Reading the arguments one by one.

`Settled` and `Taken` list what settling and taking one argument can do; everything about a reading is shown by cases on
them. A fault that is pending stays so until it is said, or something else is wrong.

- `settled_of_settle`, `taken_of_take`: nothing else happens.
- `parse_of_faultPending`: behind an argument that is at fault the arguments are refused, whatever follows.
-/
import BlockProbe.Command.Arguments
import BlockProbe.Proofs.Results

namespace BlockProbe.Command

/-! ## Flags -/

/-- is the flag raised? -/
def Request.isRaised (request : Request) : Flag → Bool
  | .noVerify => request.noVerify
  | .sync => request.sync
  | .once => request.once

/-- the request with a flag raised -/
def Request.raised (request : Request) : Flag → Request
  | .noVerify => { request with noVerify := true }
  | .sync => { request with sync := true }
  | .once => { request with once := true }

/-- a flag is raised once -/
theorem raise_eq (request : Request) (flag : Flag) :
    raise request flag = if request.isRaised flag then .error (.repeated flag.name) else .ok (request.raised flag) := by
  cases flag <;> rfl

@[simp] theorem raised_path (request : Request) (flag : Flag) : (request.raised flag).path = request.path := by
  cases flag <;> rfl

theorem raised_isRaised (request : Request) (flag other : Flag) :
    (request.raised flag).isRaised other = (flag == other || request.isRaised other) := by
  cases flag <;> cases other <;> rfl

theorem raised_comm (request : Request) (flag other : Flag) :
    (request.raised flag).raised other = (request.raised other).raised flag := by
  cases flag <;> cases other <;> rfl

theorem classify_flag (flag : Flag) : classify flag.name = .flag flag := by
  cases flag <;> cbv

variable {progress settled next : Progress} {text : String}

/-! ## Settling -/

/-- what storing an option's value does -/
theorem store_eq_ok {request next : Request} {slot : Slot} {value : String} (h : store request slot value = .ok next) :
    (∃ secs, slot = .interval ∧ request.interval = none ∧ Decimal.readUnsigned value = .ok secs ∧
      next = { request with interval := some secs }) ∨
    ∃ level, slot = .level ∧ request.level = none ∧ Level.parse value = .ok level ∧
      next = { request with level := some level } := by
  unfold store at h
  cases slot with
  | interval =>
    dsimp only at h
    split_ifs at h with hgiven
    cases hread : Decimal.readUnsigned value with
    | error malformed => rw [hread] at h; cases h
    | ok secs =>
      rw [hread] at h
      cases h
      exact .inl ⟨secs, rfl, by simpa using hgiven, rfl, rfl⟩
  | level =>
    dsimp only at h
    split_ifs at h with hgiven
    cases hread : Level.parse value with
    | error reason => rw [hread] at h; cases h
    | ok level =>
      rw [hread] at h
      cases h
      exact .inr ⟨level, rfl, by simpa using hgiven, rfl, rfl⟩

theorem store_path {request next : Request} {slot : Slot} {value : String} (h : store request slot value = .ok next) :
    next.path = request.path := by
  rcases store_eq_ok h with ⟨_, -, -, -, rfl⟩ | ⟨_, -, -, -, rfl⟩ <;> rfl

theorem store_isRaised {request next : Request} {slot : Slot} {value : String}
    (h : store request slot value = .ok next) (flag : Flag) : next.isRaised flag = request.isRaised flag := by
  rcases store_eq_ok h with ⟨_, -, -, -, rfl⟩ | ⟨_, -, -, -, rfl⟩ <;> cases flag <;> rfl

/-- the rules by which what is pending is settled -/
inductive Settled (progress : Progress) : Progress → Prop
  | nothing (hpending : progress.pending = .nothing) : Settled progress progress
  | given {slot : Slot} {value : String} {request : Request} (hpending : progress.pending = .given slot value)
    (hstore : store progress.request slot value = .ok request) :
    Settled progress { progress with request, pending := .nothing }
  | path {value : String} (hpending : progress.pending = .path value) (hvalue : value.isEmpty = false) :
    Settled progress { progress with request := { progress.request with path := some value }, pending := .nothing }

/-- what is pending is settled by one of the rules -/
theorem settled_of_settle (h : settle progress = .ok settled) : Settled progress settled := by
  unfold settle at h
  cases hpending : progress.pending with
  | nothing =>
    simp only [hpending] at h
    cases h
    exact .nothing hpending
  | awaiting slot => simp only [hpending] at h; cases h
  | given slot value =>
    simp only [hpending] at h
    obtain ⟨request, hstore, rfl⟩ := map_eq_ok.1 h
    exact .given hpending hstore
  | path value =>
    simp only [hpending] at h
    split_ifs at h with hvalue
    cases h
    exact .path hpending (Bool.eq_false_iff.2 hvalue)

/-- settling leaves nothing pending, and a path if there was one -/
theorem settle_eq_ok (h : settle progress = .ok settled) :
    ∃ request, settled = { progress with request, pending := .nothing } ∧
      request.path.isSome = progress.hasPath := by
  unfold Progress.hasPath
  cases settled_of_settle h with
  | nothing hpending => exact ⟨progress.request, by rw [← hpending], by rw [hpending]⟩
  | given hpending hstore => exact ⟨_, rfl, by rw [hpending, store_path hstore]⟩
  | path hpending _ => exact ⟨_, rfl, by rw [hpending]; rfl⟩

theorem settle_isRaised (h : settle progress = .ok settled) (flag : Flag) :
    settled.request.isRaised flag = progress.request.isRaised flag := by
  cases settled_of_settle h with
  | nothing _ => rfl
  | given _ hstore => exact store_isRaised hstore flag
  | path _ _ => cases flag <;> rfl

theorem settle_not_awaiting (h : settle progress = .ok settled) (slot : Slot) : progress.pending ≠ .awaiting slot := by
  intro hawaiting
  cases settled_of_settle h with
  | nothing hpending => rw [hawaiting] at hpending; cases hpending
  | given hpending _ => rw [hawaiting] at hpending; cases hpending
  | path hpending _ => rw [hawaiting] at hpending; cases hpending

theorem settle_of_nothing (h : progress.pending = .nothing) : settle progress = .ok progress := by
  unfold settle
  rw [h]

/-- that the options have ended does not matter to what is pending -/
theorem settle_ended (progress : Progress) :
    settle { progress with optionsEnded := true } =
      (settle progress).map fun settled => { settled with optionsEnded := true } := by
  obtain ⟨request, pending, optionsEnded⟩ := progress
  unfold settle
  cases pending with
  | nothing => rfl
  | awaiting slot => rfl
  | given slot value => dsimp only; cases store request slot value <;> rfl
  | path value => dsimp only; cases value.isEmpty <;> rfl

/-! ## Taking an argument -/

/-- a text that is no option is the path, unless an option waits for it -/
theorem take_plain {value : String} (hended : progress.optionsEnded = false) (htext : classify text = .plain value)
    (hpending : ∀ slot, progress.pending ≠ .awaiting slot) : take progress text = takePath progress value := by
  unfold take
  rw [hended, htext]
  cases h : progress.pending with
  | awaiting slot => exact (hpending slot h).elim
  | nothing => rfl
  | given slot value => rfl
  | path value => rfl

theorem take_awaited {value : String} {slot : Slot} (hended : progress.optionsEnded = false)
    (htext : classify text = .plain value) (hpending : progress.pending = .awaiting slot) :
    take progress text = .ok { progress with pending := .given slot value } := by
  unfold take
  rw [hended, htext, hpending]
  rfl

theorem take_endOfOptions (hended : progress.optionsEnded = false) (htext : classify text = .endOfOptions) :
    take progress text = .ok { progress with optionsEnded := true } := by
  unfold take
  rw [hended, htext]
  rfl

/-- the rules by which an argument is taken -/
inductive Taken (text : String) (progress : Progress) : Progress → Prop
  | path {settled : Progress} (value : String) (hsettle : settle progress = .ok settled)
    (htext : progress.optionsEnded = true ∨ classify text = .plain value) (hfree : progress.hasPath = false)
    (hvalue : progress.optionsEnded = true → value = text) :
    Taken text progress { settled with pending := .path value }
  | value {slot : Slot} {value : String} (hended : progress.optionsEnded = false)
    (htext : classify text = .plain value) (hpending : progress.pending = .awaiting slot) :
    Taken text progress { progress with pending := .given slot value }
  | endOfOptions (hended : progress.optionsEnded = false) (htext : classify text = .endOfOptions) :
    Taken text progress { progress with optionsEnded := true }
  | option {settled : Progress} {slot : Slot} (hended : progress.optionsEnded = false)
    (htext : classify text = .option slot none) (hsettle : settle progress = .ok settled) :
    Taken text progress { settled with pending := .awaiting slot }
  | attached {settled : Progress} {slot : Slot} {value : String} {request : Request}
    (hended : progress.optionsEnded = false) (htext : classify text = .option slot (some value))
    (hsettle : settle progress = .ok settled) (hstore : store settled.request slot value = .ok request) :
    Taken text progress { settled with request }
  | flag {settled : Progress} {raised : Flag} (hended : progress.optionsEnded = false)
    (htext : classify text = .flag raised) (hsettle : settle progress = .ok settled)
    (hraised : settled.request.isRaised raised = false) :
    Taken text progress { settled with request := settled.request.raised raised }

theorem takePath_eq_ok (h : takePath progress text = .ok next) :
    progress.hasPath = false ∧
      ∃ settled, settle progress = .ok settled ∧ next = { settled with pending := .path text } := by
  unfold takePath at h
  split_ifs at h with hpath
  obtain ⟨settled, hsettle, h⟩ := bind_eq_ok.1 h
  cases h
  exact ⟨Bool.eq_false_iff.2 hpath, settled, mapError_eq_ok.1 hsettle, rfl⟩

/-- an argument is taken by one of the rules -/
theorem taken_of_take (h : take progress text = .ok next) : Taken text progress next := by
  cases hended : progress.optionsEnded with
  | true =>
    unfold take at h
    rw [if_pos hended] at h
    obtain ⟨hfree, settled, hsettle, rfl⟩ := takePath_eq_ok h
    exact .path text hsettle (.inl hended) hfree fun _ => rfl
  | false =>
    cases hclass : classify text with
    | plain value =>
      by_cases hawaits : ∃ slot, progress.pending = .awaiting slot
      · obtain ⟨slot, hawaits⟩ := hawaits
        rw [take_awaited hended hclass hawaits] at h
        cases h
        exact .value hended hclass hawaits
      · rw [take_plain hended hclass fun slot heq => hawaits ⟨slot, heq⟩] at h
        obtain ⟨hfree, settled, hsettle, rfl⟩ := takePath_eq_ok h
        exact .path value hsettle (.inr hclass) hfree fun htrue => by rw [hended] at htrue; cases htrue
    | endOfOptions =>
      rw [take_endOfOptions hended hclass] at h
      cases h
      exact .endOfOptions hended hclass
    | refused refusal =>
      unfold take at h
      rw [hended, hclass] at h
      cases h
    | option slot attached =>
      unfold take at h
      rw [hended, hclass] at h
      obtain ⟨settled, hsettle, h⟩ := bind_eq_ok.1 h
      cases attached with
      | none =>
        cases h
        exact .option hended hclass (mapError_eq_ok.1 hsettle)
      | some value =>
        obtain ⟨request, hstore, h⟩ := bind_eq_ok.1 h
        cases h
        exact .attached hended hclass (mapError_eq_ok.1 hsettle) (mapError_eq_ok.1 hstore)
    | flag raised =>
      unfold take at h
      rw [hended, hclass] at h
      obtain ⟨settled, hsettle, h⟩ := bind_eq_ok.1 h
      obtain ⟨request, hraise, h⟩ := bind_eq_ok.1 h
      cases h
      rw [mapError_eq_ok, raise_eq] at hraise
      cases hraised : settled.request.isRaised raised with
      | true => rw [hraised] at hraise; cases hraise
      | false =>
        rw [hraised] at hraise
        cases hraise
        exact .flag hended hclass (mapError_eq_ok.1 hsettle) hraised
    | help =>
      unfold take at h
      rw [hended, hclass] at h
      obtain ⟨_, -, h⟩ := bind_eq_ok.1 h
      cases h
    | version =>
      unfold take at h
      rw [hended, hclass] at h
      obtain ⟨_, -, h⟩ := bind_eq_ok.1 h
      cases h

/-- the options end where they are ended, and stay so -/
theorem Taken.optionsEnded (h : Taken text progress next) :
    next.optionsEnded = true ↔ progress.optionsEnded = true ∨ classify text = .endOfOptions := by
  cases h with
  | path value hsettle htext =>
    obtain ⟨request, rfl, -⟩ := settle_eq_ok hsettle
    constructor
    · intro hended
      exact .inl hended
    · rintro (hended | hend)
      · exact hended
      · rw [hend] at htext
        rcases htext with hended | htext
        · exact hended
        · cases htext
  | value _ htext _ => simp [htext]
  | endOfOptions _ htext => simp [htext]
  | option _ htext hsettle =>
    obtain ⟨request, rfl, -⟩ := settle_eq_ok hsettle
    simp [htext]
  | attached _ htext hsettle _ =>
    obtain ⟨request, rfl, -⟩ := settle_eq_ok hsettle
    simp [htext]
  | flag _ htext hsettle _ =>
    obtain ⟨request, rfl, -⟩ := settle_eq_ok hsettle
    simp [htext]

/-- a flag that is raised stays so, and one that an argument raises is raised -/
theorem Taken.isRaised (h : Taken text progress next) {flag : Flag}
    (hflag : progress.request.isRaised flag = true ∨
      progress.optionsEnded = false ∧ classify text = .flag flag) : next.request.isRaised flag = true := by
  cases h with
  | path value hsettle htext =>
    rcases hflag with hflag | ⟨hended, hclass⟩
    · exact (settle_isRaised hsettle flag).trans hflag
    · rw [hended, hclass] at htext
      rcases htext with htext | htext <;> cases htext
  | value _ htext _ =>
    rcases hflag with hflag | ⟨-, hclass⟩
    · exact hflag
    · rw [hclass] at htext; cases htext
  | endOfOptions _ htext =>
    rcases hflag with hflag | ⟨-, hclass⟩
    · exact hflag
    · rw [hclass] at htext; cases htext
  | option _ htext hsettle =>
    rcases hflag with hflag | ⟨-, hclass⟩
    · exact (settle_isRaised hsettle flag).trans hflag
    · rw [hclass] at htext; cases htext
  | attached _ htext hsettle hstore =>
    rcases hflag with hflag | ⟨-, hclass⟩
    · exact (store_isRaised hstore flag).trans ((settle_isRaised hsettle flag).trans hflag)
    · rw [hclass] at htext; cases htext
  | flag _ htext hsettle _ =>
    rw [raised_isRaised, Bool.or_eq_true]
    rcases hflag with hflag | ⟨-, hclass⟩
    · exact .inr ((settle_isRaised hsettle flag).trans hflag)
    · rw [hclass] at htext
      cases htext
      exact .inl (beq_self_eq_true flag)

/-- behind an argument at fault the next one is refused, or ends the options and leaves the fault -/
theorem take_of_fault {refusal : Refusal} (hsettle : settle progress = .error refusal)
    (hpending : ∀ slot, progress.pending ≠ .awaiting slot) (text : String) :
    (∃ other, take progress text = .error (.refused other)) ∨
      take progress text = .ok { progress with optionsEnded := true } := by
  have hpath (value : String) : ∃ other, takePath progress value = .error (.refused other) := by
    unfold takePath
    rw [hsettle]
    split_ifs
    · exact ⟨_, rfl⟩
    · exact ⟨refusal, rfl⟩
  cases hended : progress.optionsEnded with
  | true =>
    unfold take
    rw [if_pos hended]
    exact .inl (hpath text)
  | false =>
    cases hclass : classify text with
    | plain value =>
      rw [take_plain hended hclass hpending]
      exact .inl (hpath value)
    | endOfOptions => exact .inr (take_endOfOptions hended hclass)
    | refused other => exact .inl ⟨other, by unfold take; rw [hended, hclass]; rfl⟩
    | option slot attached => exact .inl ⟨refusal, by unfold take; rw [hended, hclass, hsettle]; rfl⟩
    | flag raised => exact .inl ⟨refusal, by unfold take; rw [hended, hclass, hsettle]; rfl⟩
    | help => exact .inl ⟨refusal, by unfold take; rw [hended, hclass, hsettle]; rfl⟩
    | version => exact .inl ⟨refusal, by unfold take; rw [hended, hclass, hsettle]; rfl⟩

/-! ## The whole command line -/

/-- behind an argument at fault the rest is refused at once, or read and the fault is still there -/
theorem foldlM_of_fault {refusal : Refusal} {after : List String} (hsettle : settle progress = .error refusal)
    (hpending : ∀ slot, progress.pending ≠ .awaiting slot) :
    (∃ other, after.foldlM take progress = .error (.refused other)) ∨
      ∃ next, after.foldlM take progress = .ok next ∧ settle next = .error refusal := by
  induction after generalizing progress with
  | nil => exact .inr ⟨progress, rfl, hsettle⟩
  | cons text rest ih =>
    rw [List.foldlM_cons]
    rcases take_of_fault hsettle hpending text with ⟨other, htake⟩ | htake
    · exact .inl ⟨other, by rw [htake]; rfl⟩
    · rw [htake]
      exact ih (by rw [settle_ended, hsettle]; rfl) hpending

theorem foldlM_append_of_ok {before : List String} (h : before.foldlM take progress = .ok reading)
    (after : List String) : (before ++ after).foldlM take progress = after.foldlM take reading := by
  rw [List.foldlM_append, h]
  rfl

theorem parse_of_stop {arguments : List String} {stop : Stop} (h : arguments.foldlM take {} = .error stop) :
    parse arguments = .error stop := by
  unfold parse
  rw [h]
  rfl

theorem parse_of_read {arguments : List String} (h : arguments.foldlM take {} = .ok progress) :
    parse arguments = ((settle progress).mapError Stop.refused).map Progress.request := by
  unfold parse
  rw [h]
  show ((settle progress).mapError Stop.refused >>= fun progress => .ok progress.request) = _
  cases settle progress <;> rfl

/-- an option can stand behind these arguments: if they are accepted, the options have not ended and none waits for its
value -/
def Between (before : List String) : Prop :=
  ∀ progress, before.foldlM take {} = .ok progress →
    progress.optionsEnded = false ∧ ∀ slot, progress.pending ≠ .awaiting slot

/-- the last of these arguments is at fault, which is not said yet -/
def FaultPending (before : List String) : Prop :=
  ∃ progress refusal, before.foldlM take {} = .ok progress ∧ settle progress = .error refusal

/-- **Behind an argument that is at fault** the arguments are refused, whatever follows. -/
theorem parse_of_faultPending {before : List String} (hplace : Between before) (h : FaultPending before)
    (after : List String) : ∃ refusal, parse (before ++ after) = .error (.refused refusal) := by
  obtain ⟨progress, refusal, hbefore, hsettle⟩ := h
  have hread := foldlM_append_of_ok hbefore after
  rcases foldlM_of_fault hsettle (hplace progress hbefore).2 with ⟨other, hafter⟩ | ⟨next, hafter, hfault⟩
  · exact ⟨other, parse_of_stop (hread.trans hafter)⟩
  · exact ⟨refusal, by rw [parse_of_read (hread.trans hafter), hfault]; rfl⟩

end BlockProbe.Command
