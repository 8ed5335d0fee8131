/-
The stage at which a round trip fails.

A round trip has five stages: the target is opened for writing, written to, flushed where that is asked for, opened for
reading, and read. What a stage comes to is laid down here from the answers to its own calls, each of them made again
while it is interrupted. The first stage that fails is the one reported, and no call of a later stage is made: a target
that answers none of those does as well, though a call without an answer waits for ever.

- `retried_eq_failed`, `writeAll_eq_failed`, `collect_eq_failed`: what the answers say of one stage.
- `roundTrip_eq_failed`: what they say of all.
- `roundTrip_by_stages`: what a failing round trip reports, and which calls it makes.
-/
import BlockProbe.Command.Failure
import BlockProbe.Proofs.Probe.Filling
import BlockProbe.Proofs.Probe.Target

namespace BlockProbe.Probe

open BlockProbe.Files (Attempt Fault retried)

/-! ## What a stage comes to -/

/-- a call that is made again after every interruption is answered so at last -/
def AnsweredBy {α : Type} (answers : List (Except Fault α)) (answer : Except Fault α) : Prop :=
  ∃ front back, answers = front ++ answer :: back ∧
    ∀ earlier ∈ front, ∃ fault : Fault, earlier = .error fault ∧ fault.isInterruption = true

def CallSucceeds (answers : List (Except Fault Unit)) : Prop := AnsweredBy answers (.ok ())

def CallFails (answers : List (Except Fault Unit)) (fault : Fault) : Prop :=
  fault.isInterruption = false ∧ AnsweredBy answers (.error fault)

/-- may writing go on behind the answer? It may if bytes were taken, or the write was interrupted. -/
def writesOn : Except Fault Nat → Bool
  | .ok taken => taken != 0
  | .error fault => fault.isInterruption

/-- the bytes that an answer took -/
def takenBy : Except Fault Nat → Nat
  | .ok taken => taken
  | .error _ => 0

/-- the bytes that all answers took together -/
def takenByAll : List (Except Fault Nat) → Nat
  | [] => 0
  | answer :: rest => takenBy answer + takenByAll rest

/-- behind these answers there are bytes left, and none of them has ended writing: another write is made -/
structure WritesMore (count : Nat) (front : List (Except Fault Nat)) : Prop where
  goesOn : ∀ answer ∈ front, writesOn answer = true
  left : takenByAll front < count

/-- a write fails with a fault of its own, or with that of having taken nothing -/
inductive RefusesWrite : Except Fault Nat → Fault → Prop
  | refused {fault : Fault} (h : fault.isInterruption = false) : RefusesWrite (.error fault) fault
  | nothing : RefusesWrite (.ok 0) .wroteNothing

/-- all bytes are taken, however they are cut and however often a write is interrupted -/
def WritesAll (count : Nat) (answers : List (Except Fault Nat)) : Prop :=
  ∃ front back, answers = front ++ back ∧ (∀ answer ∈ front, writesOn answer = true) ∧ count ≤ takenByAll front

def WriteFails (count : Nat) (answers : List (Except Fault Nat)) (fault : Fault) : Prop :=
  ∃ front answer back, answers = front ++ answer :: back ∧ WritesMore count front ∧ RefusesWrite answer fault

/-- a read fails that is made: there is room, and the source was not at its end before -/
def ReadFails (space : Nat) (replies : List Reply) (fault : Fault) : Prop :=
  ∃ front back, replies = front ++ .error fault :: back ∧ fault.isInterruption = false ∧ Asks space front

/-- the stages of a round trip -/
inductive Stage where
  | create
  | write
  | sync
  | reopen
  | read
deriving DecidableEq, Repr

/-- the call that a stage is reported as -/
def Stage.call : Stage → Call
  | .create => .write
  | .write => .write
  | .sync => .sync
  | .reopen => .opening
  | .read => .read

/-- the whole of writing succeeds -/
structure Written (target : Target) (bytes : List UInt8) (options : Options) : Prop where
  created : CallSucceeds target.sink.opens
  taken : WritesAll bytes.length target.sink.writes
  synced : options.sync = true → CallSucceeds target.sink.syncs

/-- a stage fails with this fault, and all stages before it succeed -/
def FailsAt (target : Target) (bytes : List UInt8) (options : Options) : Stage → Fault → Prop
  | .create, fault => CallFails target.sink.opens fault
  | .write, fault => CallSucceeds target.sink.opens ∧ WriteFails bytes.length target.sink.writes fault
  | .sync, fault =>
    CallSucceeds target.sink.opens ∧ WritesAll bytes.length target.sink.writes ∧ options.sync = true ∧
      CallFails target.sink.syncs fault
  | .reopen, fault => Written target bytes options ∧ CallFails target.source.opens fault
  | .read, fault =>
    Written target bytes options ∧ CallSucceeds target.source.opens ∧
      ReadFails bytes.length target.source.reads fault

/-- the target without an answer to any call behind a stage: each of them would wait for ever -/
def Target.silentAfter (target : Target) : Stage → Target
  | .create => { sink := { target.sink with writes := [], syncs := [] }, source := { opens := [], reads := [] } }
  | .write => { sink := { target.sink with syncs := [] }, source := { opens := [], reads := [] } }
  | .sync => { target with source := { opens := [], reads := [] } }
  | .reopen => { target with source := { target.source with reads := [] } }
  | .read => target

/-- the target without an answer to any write or read -/
def Target.withoutTransfers (target : Target) : Target where
  sink := { target.sink with writes := [] }
  source := { target.source with reads := [] }

/-! ## One call -/

section Calls

variable {α : Type} {first answer : Except Fault α} {rest answers : List (Except Fault α)} {fault : Fault} {value : α}

theorem not_answeredBy_nil : ¬ AnsweredBy [] answer := by
  rintro ⟨front, back, h, -⟩
  simp at h

/-- the first answer counts, unless it is an interruption -/
theorem answeredBy_cons :
    AnsweredBy (first :: rest) answer ↔
      first = answer ∨ (∃ fault, first = .error fault ∧ fault.isInterruption = true) ∧ AnsweredBy rest answer := by
  constructor
  · rintro ⟨front, back, h, hfront⟩
    cases front with
    | nil => exact .inl (List.cons.inj h).1
    | cons earlier front =>
      obtain ⟨rfl, hrest⟩ := List.cons.inj h
      obtain ⟨hfirst, hothers⟩ := List.forall_mem_cons.1 hfront
      exact .inr ⟨hfirst, front, back, hrest, hothers⟩
  · rintro (rfl | ⟨hfirst, front, back, rfl, hothers⟩)
    · exact ⟨[], rest, rfl, by simp⟩
    · exact ⟨first :: front, back, rfl, List.forall_mem_cons.2 ⟨hfirst, hothers⟩⟩

theorem retried_eq_done : retried answers = .done value ↔ AnsweredBy answers (.ok value) := by
  induction answers with
  | nil => simp [retried, not_answeredBy_nil]
  | cons first rest ih =>
    rw [answeredBy_cons, ← ih]
    cases first with
    | ok other => simp [retried]
    | error fault => cases hfault : fault.isInterruption <;> simp [retried, hfault]

theorem retried_eq_failed :
    retried answers = .failed fault ↔ fault.isInterruption = false ∧ AnsweredBy answers (.error fault) := by
  induction answers with
  | nil => simp [retried, not_answeredBy_nil]
  | cons first rest ih =>
    rw [answeredBy_cons]
    cases first with
    | ok other => simp [retried]
    | error other =>
      cases hother : other.isInterruption with
      | false =>
        simp only [retried, hother]
        constructor
        · intro h; cases h; exact ⟨hother, .inl rfl⟩
        · rintro ⟨-, h | ⟨⟨_, h, hagain⟩, -⟩⟩
          · cases h; rfl
          · cases h; rw [hother] at hagain; cases hagain
      | true =>
        rw [retried, if_pos hother, ih]
        refine and_congr_right fun hfault => ⟨fun h => .inr ⟨⟨other, rfl, hother⟩, h⟩, ?_⟩
        rintro (h | ⟨-, h⟩)
        · cases h; rw [hother] at hfault; cases hfault
        · exact h

end Calls

/-! ## Writing -/

section Writing

variable {count : Nat} {first : Except Fault Nat} {front rest answers : List (Except Fault Nat)} {fault : Fault}

theorem writesAll_zero (answers : List (Except Fault Nat)) : WritesAll 0 answers :=
  ⟨[], answers, rfl, by simp, Nat.zero_le _⟩

theorem not_writeFails_zero : ¬ WriteFails 0 answers fault := by
  rintro ⟨front, answer, back, -, hmore, -⟩
  exact absurd hmore.left (Nat.not_lt_zero _)

/-- while bytes are left, the first answer has to take some, or be an interruption -/
theorem writesAll_cons (hcount : 0 < count) :
    WritesAll count (first :: rest) ↔ writesOn first = true ∧ WritesAll (count - takenBy first) rest := by
  constructor
  · rintro ⟨front, back, h, hfront, htaken⟩
    cases front with
    | nil => exact absurd htaken (Nat.not_le.2 hcount)
    | cons earlier front =>
      obtain ⟨rfl, hrest⟩ := List.cons.inj h
      obtain ⟨hfirst, hothers⟩ := List.forall_mem_cons.1 hfront
      rw [takenByAll] at htaken
      exact ⟨hfirst, front, back, hrest, hothers, by omega⟩
  · rintro ⟨hfirst, front, back, rfl, hothers, htaken⟩
    refine ⟨first :: front, back, rfl, List.forall_mem_cons.2 ⟨hfirst, hothers⟩, ?_⟩
    rw [takenByAll]
    omega

theorem writeFails_cons (hcount : 0 < count) :
    WriteFails count (first :: rest) fault ↔
      RefusesWrite first fault ∨ writesOn first = true ∧ WriteFails (count - takenBy first) rest fault := by
  constructor
  · rintro ⟨front, answer, back, h, hmore, hrefuses⟩
    cases front with
    | nil => exact .inl ((List.cons.inj h).1 ▸ hrefuses)
    | cons earlier front =>
      obtain ⟨rfl, hrest⟩ := List.cons.inj h
      obtain ⟨hfirst, hothers⟩ := List.forall_mem_cons.1 hmore.goesOn
      have hleft := hmore.left
      rw [takenByAll] at hleft
      exact .inr ⟨hfirst, front, answer, back, hrest, ⟨hothers, by omega⟩, hrefuses⟩
  · rintro (hrefuses | ⟨hfirst, front, answer, back, rfl, hmore, hrefuses⟩)
    · exact ⟨[], first, rest, rfl, ⟨by simp, hcount⟩, hrefuses⟩
    · have hleft := hmore.left
      refine ⟨first :: front, answer, back, rfl, ⟨List.forall_mem_cons.2 ⟨hfirst, hmore.goesOn⟩, ?_⟩, hrefuses⟩
      rw [takenByAll]
      omega

/-- an answer that writing goes on behind refuses nothing -/
theorem not_refusesWrite (h : writesOn first = true) : ¬ RefusesWrite first fault := by
  intro hrefuses
  cases hrefuses with
  | refused hfault => exact absurd (hfault.symm.trans h) (by decide)
  | nothing => cases h

theorem writeAll_zero (answers : List (Except Fault Nat)) : writeAll 0 answers = .done () := by
  cases answers <;> simp [writeAll]

theorem writeAll_writesOn (hcount : 0 < count) (h : writesOn first = true) (rest : List (Except Fault Nat)) :
    writeAll count (first :: rest) = writeAll (count - takenBy first) rest := by
  have hleft := Nat.ne_of_gt hcount
  cases first with
  | ok taken =>
    have htaken : taken ≠ 0 := by simpa [writesOn] using h
    rw [writeAll, if_neg hleft, if_neg htaken]
    rfl
  | error fault =>
    have hagain : fault.isInterruption = true := h
    rw [writeAll, if_neg hleft, if_pos hagain]
    rfl

/-- an answer that ends writing refuses it -/
theorem writeAll_refused (hcount : 0 < count) (h : writesOn first = false) (rest : List (Except Fault Nat)) :
    ∃ fault, RefusesWrite first fault ∧ writeAll count (first :: rest) = .failed fault := by
  have hleft := Nat.ne_of_gt hcount
  cases first with
  | ok taken =>
    have htaken : taken = 0 := by simpa [writesOn] using h
    subst htaken
    exact ⟨_, .nothing, by rw [writeAll, if_neg hleft, if_pos rfl]⟩
  | error fault =>
    have hfault : ¬ fault.isInterruption = true := by simpa [writesOn] using h
    exact ⟨fault, .refused (by simpa using hfault), by rw [writeAll, if_neg hleft, if_neg hfault]⟩

theorem RefusesWrite.unique {other : Fault} (h : RefusesWrite first fault) (hother : RefusesWrite first other) :
    fault = other := by
  cases h <;> cases hother <;> rfl

theorem writeAll_eq_done : writeAll count answers = .done () ↔ WritesAll count answers := by
  induction answers generalizing count with
  | nil =>
    by_cases hcount : count = 0
    · simp [writeAll, hcount, writesAll_zero]
    · refine iff_of_false (by simp [writeAll, hcount]) ?_
      rintro ⟨front, back, h, -, htaken⟩
      obtain ⟨rfl, -⟩ := List.append_eq_nil_iff.1 h.symm
      exact hcount (Nat.le_zero.1 htaken)
  | cons first rest ih =>
    rcases Nat.eq_zero_or_pos count with rfl | hcount
    · exact iff_of_true (writeAll_zero _) (writesAll_zero _)
    · rw [writesAll_cons hcount, ← ih]
      cases hfirst : writesOn first with
      | true => simp [writeAll_writesOn hcount hfirst]
      | false =>
        obtain ⟨fault, -, hfailed⟩ := writeAll_refused hcount hfirst rest
        simp [hfailed]

theorem writeAll_eq_failed : writeAll count answers = .failed fault ↔ WriteFails count answers fault := by
  induction answers generalizing count with
  | nil =>
    refine iff_of_false (by by_cases hcount : count = 0 <;> simp [writeAll, hcount]) ?_
    rintro ⟨front, answer, back, h, -⟩
    simp at h
  | cons first rest ih =>
    rcases Nat.eq_zero_or_pos count with rfl | hcount
    · exact iff_of_false (by simp [writeAll_zero]) not_writeFails_zero
    · rw [writeFails_cons hcount, ← ih]
      cases hfirst : writesOn first with
      | true => simp [writeAll_writesOn hcount hfirst, not_refusesWrite hfirst]
      | false =>
        obtain ⟨other, hrefuses, hfailed⟩ := writeAll_refused hcount hfirst rest
        rw [hfailed]
        constructor
        · intro h; cases h; exact .inl hrefuses
        · rintro (hfault | ⟨h, -⟩)
          · rw [hrefuses.unique hfault]
          · cases h

end Writing

/-! ## Reading -/

/-- **Reading fails** with the first fault that a read meets, if that is before the bytes are there or at an end. -/
theorem collect_eq_failed {space : Nat} {replies : List Reply} {fault : Fault} :
    collect space replies = .failed fault ↔ ReadFails space replies fault := by
  have hkeeps : ∀ {α β : Type} (attempt : Attempt Fault α) (f : α → β),
      (attempt.bind fun value => .done (f value)) = .failed fault ↔ attempt = .failed fault := by
    intro α β attempt f
    cases attempt <;> simp [Attempt.bind]
  have hloop := collect_fill (Buffer.holding (List.replicate space 0)) replies
  have hspace : (Buffer.holding (List.replicate space 0)).free.length = space := List.length_replicate
  have hfailed := @fill_failed_iff (Buffer.holding (List.replicate space 0)) replies fault
  rw [hspace] at hloop hfailed
  rw [ReadFails, ← hfailed, ← hkeeps, hloop, hkeeps]

theorem not_readFails_zero {replies : List Reply} {fault : Fault} : ¬ ReadFails 0 replies fault := by
  rintro ⟨front, back, -, -, hasks⟩
  exact absurd hasks.room (Nat.not_lt_zero _)

/-! ## All stages -/

section Trip

variable {path : String} {target : Target} {bytes : List UInt8} {options : Options} {error : Error} {stage : Stage}
  {fault : Fault}

theorem writePayload_written :
    writePayload path target.sink bytes options = .done () ↔ Written target bytes options := by
  rw [writePayload_eq_done, retried_eq_done, writeAll_eq_done, retried_eq_done]
  exact ⟨fun ⟨hcreated, htaken, hsynced⟩ => ⟨hcreated, htaken, hsynced⟩, fun h => ⟨h.created, h.taken, h.synced⟩⟩

theorem writePayload_failsAt :
    writePayload path target.sink bytes options = .failed error ↔
      ∃ stage fault, (stage = .create ∨ stage = .write ∨ stage = .sync) ∧ FailsAt target bytes options stage fault ∧
        error = { path, failure := .call stage.call fault } := by
  rw [writePayload_eq_failed]
  simp only [retried_eq_failed, retried_eq_done, writeAll_eq_failed, writeAll_eq_done]
  constructor
  · rintro (⟨fault, h, rfl⟩ | ⟨hopen, fault, h, rfl⟩ | ⟨hopen, htaken, hsync, fault, h, rfl⟩)
    · exact ⟨.create, fault, by simp, h, rfl⟩
    · exact ⟨.write, fault, by simp, ⟨hopen, h⟩, rfl⟩
    · exact ⟨.sync, fault, by simp, ⟨hopen, htaken, hsync, h⟩, rfl⟩
  · rintro ⟨stage, fault, rfl | rfl | rfl, h, rfl⟩
    · exact .inl ⟨fault, h, rfl⟩
    · exact .inr (.inl ⟨h.1, fault, h.2, rfl⟩)
    · exact .inr (.inr ⟨h.1, h.2.1, h.2.2.1, fault, h.2.2.2, rfl⟩)

/-- **A round trip fails with the stage that fails first.** -/
theorem roundTrip_eq_failed :
    roundTrip path target bytes options = .failed error ↔
      ∃ stage fault, FailsAt target bytes options stage fault ∧
        error = { path, failure := .call stage.call fault } := by
  unfold roundTrip
  rw [Attempt.then_eq_failed, writePayload_failsAt, writePayload_written, readBack_eq_failed]
  simp only [retried_eq_failed, retried_eq_done, collect_eq_failed]
  constructor
  · rintro (⟨stage, fault, -, h, rfl⟩ | ⟨hwritten, ⟨fault, h, rfl⟩ | ⟨hopen, fault, h, rfl⟩⟩)
    · exact ⟨stage, fault, h, rfl⟩
    · exact ⟨.reopen, fault, ⟨hwritten, h⟩, rfl⟩
    · exact ⟨.read, fault, ⟨hwritten, hopen, h⟩, rfl⟩
  · rintro ⟨stage, fault, h, rfl⟩
    cases stage with
    | reopen => exact .inr ⟨h.1, .inl ⟨fault, h.2, rfl⟩⟩
    | read => exact .inr ⟨h.1, .inr ⟨h.2.1, fault, h.2.2, rfl⟩⟩
    | create => exact .inl ⟨.create, fault, by simp, h, rfl⟩
    | write => exact .inl ⟨.write, fault, by simp, h, rfl⟩
    | sync => exact .inl ⟨.sync, fault, by simp, h, rfl⟩

/-- whether a stage fails is settled by the answers up to it -/
theorem FailsAt.silentAfter (h : FailsAt target bytes options stage fault) :
    FailsAt (target.silentAfter stage) bytes options stage fault := by
  cases stage with
  | reopen => exact ⟨⟨h.1.created, h.1.taken, h.1.synced⟩, h.2⟩
  | _ => exact h

/-- a round trip of nothing neither writes nor reads -/
theorem roundTrip_withoutTransfers :
    roundTrip path target.withoutTransfers [] options = roundTrip path target [] options := by
  have hcollect : ∀ replies, collect 0 replies = .done [] := collect_full
  unfold roundTrip writePayload readBack Target.withoutTransfers
  simp only [List.length_nil, writeAll_zero, hcollect]

theorem failsAt_of_empty (h : FailsAt target [] options stage fault) : stage ≠ .write ∧ stage ≠ .read := by
  constructor
  · rintro rfl
    exact not_writeFails_zero h.2
  · rintro rfl
    exact not_readFails_zero h.2.2

/-- a failed call is told with its path and the fault's text -/
theorem message_of_call (path : String) (call : Call) (fault : Fault) :
    ∃ before between, Error.message { path, failure := .call call fault } =
      before ++ path ++ between ++ fault.message := by
  cases call with
  | write => exact ⟨"failed to write ", ": ", rfl⟩
  | sync => exact ⟨"failed to sync ", ": ", rfl⟩
  | opening => exact ⟨"failed to open ", " for reading: ", rfl⟩
  | read => exact ⟨"failed to read ", ": ", rfl⟩

end Trip

/-- What a round trip that fails reports, and which calls it makes. -/
structure FailsByStage (path : String) (target : Target) (bytes : List UInt8) (options : Options) : Prop where
  /-- a failed call is reported exactly if a stage that is reported so fails with this fault, and none before it -/
  reports (call : Call) (fault : Fault) :
    roundTrip path target bytes options = .failed { path, failure := .call call fault } ↔
      ∃ stage : Stage, stage.call = call ∧ FailsAt target bytes options stage fault
  /-- nothing else is reported: never what came back, and always the path that was given -/
  only (error : Error) : roundTrip path target bytes options = .failed error →
    ∃ call fault, error = { path, failure := .call call fault } ∧ error.failure.kind = .io ∧
      (Command.Failure.probe error).exitStatus = 2 ∧
      ∃ before between, (Command.Failure.probe error).message = before ++ path ++ between ++ fault.message
  /-- no call of a later stage is made, or a target that answers none of them would be waited for -/
  notAttempted (stage : Stage) (fault : Fault) : FailsAt target bytes options stage fault →
    roundTrip path (target.silentAfter stage) bytes options =
      .failed { path, failure := .call stage.call fault }
  /-- with nothing to write no write and no read is made, and none fails: there are the two openings and the flush -/
  empty : bytes = [] →
    roundTrip path target.withoutTransfers bytes options = roundTrip path target bytes options ∧
      ∀ stage fault, FailsAt target bytes options stage fault → stage = .create ∨ stage = .sync ∨ stage = .reopen

/-- **A failing round trip reports its own stage**, whatever the target does. -/
theorem roundTrip_by_stages (path : String) (target : Target) (bytes : List UInt8) (options : Options) :
    FailsByStage path target bytes options where
  reports call fault := by
    rw [roundTrip_eq_failed]
    constructor
    · rintro ⟨stage, other, h, heq⟩
      cases heq
      exact ⟨stage, rfl, h⟩
    · rintro ⟨stage, rfl, h⟩
      exact ⟨stage, fault, h, rfl⟩
  only error h := by
    obtain ⟨stage, fault, -, rfl⟩ := roundTrip_eq_failed.1 h
    exact ⟨stage.call, fault, rfl, rfl, rfl, message_of_call path stage.call fault⟩
  notAttempted stage fault h := roundTrip_eq_failed.2 ⟨stage, fault, h.silentAfter, rfl⟩
  empty hbytes := by
    subst hbytes
    refine ⟨roundTrip_withoutTransfers, fun stage fault h => ?_⟩
    obtain ⟨hwrite, hread⟩ := failsAt_of_empty h
    cases stage with
    | write => exact (hwrite rfl).elim
    | read => exact (hread rfl).elim
    | create => exact .inl rfl
    | sync => exact .inr (.inl rfl)
    | reopen => exact .inr (.inr rfl)

/-! A target that takes the payload in two parts, with interruptions, and cannot be flushed. -/

def unsyncable : Target where
  sink := {
    opens := [.error (.os 4), .ok ()]
    writes := [.ok 4, .error (.ofKind .interrupted), .ok 11]
    syncs := [.error (.os 4), .error .invalid] }
  source := { opens := [.ok ()], reads := [.ok payload, .ok []] }

theorem unsyncable_failsAt : FailsAt unsyncable payload { sync := true } .sync .invalid := by
  refine ⟨⟨[.error (.os 4)], [], rfl, ?_⟩, ⟨unsyncable.sink.writes, [], rfl, ?_, ?_⟩, rfl, rfl,
    ⟨[.error (.os 4)], [], rfl, ?_⟩⟩
  · exact List.forall_mem_singleton.2 ⟨_, rfl, rfl⟩
  · decide
  · cbv
  · exact List.forall_mem_singleton.2 ⟨_, rfl, rfl⟩

theorem unsyncable_by_stages :
    FailsAt unsyncable payload { sync := true } .sync .invalid ∧
    roundTrip "t" unsyncable payload { sync := true } =
      .failed { path := "t", failure := .call .sync .invalid } ∧
    roundTrip "t" (unsyncable.silentAfter .sync) payload { sync := true } =
      .failed { path := "t", failure := .call .sync .invalid } ∧
    (Command.Failure.probe { path := "t", failure := .call .sync .invalid }).exitStatus = 2 ∧
    roundTrip "t" unsyncable.withoutTransfers [] { sync := true } = roundTrip "t" unsyncable [] { sync := true } := by
  obtain ⟨hreports, honly, hsilent, -⟩ := roundTrip_by_stages "t" unsyncable payload { sync := true }
  have hfails := (hreports .sync .invalid).2 ⟨.sync, rfl, unsyncable_failsAt⟩
  obtain ⟨_, _, -, -, hstatus, -⟩ := honly _ hfails
  exact ⟨unsyncable_failsAt, hfails, hsilent .sync .invalid unsyncable_failsAt, hstatus,
    ((roundTrip_by_stages "t" unsyncable [] { sync := true }).empty rfl).1⟩

end BlockProbe.Probe
