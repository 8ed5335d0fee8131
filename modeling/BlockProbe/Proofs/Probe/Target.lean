/-
How a round trip ends.

A round trip that comes back has made all its calls with success. It only makes calls, so what it reports is always a
failed call; whether what came back is right is judged afterwards.

- `writePayload_eq_done`, `readBack_eq_done`: what succeeded.
- `writePayload_eq_failed`, `readBack_eq_failed`: which call failed, and what succeeded before it.
- `roundTrip_failed`: a failing round trip reports a call.
-/
import BlockProbe.Probe.Target
import BlockProbe.Proofs.Results

namespace BlockProbe.Probe

open BlockProbe.Files (Attempt Fault retried)

/-- what a failing call reports -/
theorem failing_eq_failed {α : Type} {path : String} {call : Call} {attempt : Attempt Fault α} {error : Error} :
    failing path call attempt = .failed error ↔
      ∃ fault, attempt = .failed fault ∧ error = { path, failure := .call call fault } := by
  unfold failing
  rw [Attempt.mapError_eq_failed]
  simp only [eq_comm]

/-- a call that is refused is made again, and waits, or fails -/
theorem failing_refused {α : Type} (path : String) (call : Call) (fault : Fault) :
    failing path call (retried [.error fault] : Attempt Fault α) =
      if fault.isInterruption then .waits else .failed { path, failure := .call call fault } := by
  unfold failing retried
  cases fault.isInterruption <;> rfl

section

variable {path : String} {sink : Sink} {source : Source} {bytes : List UInt8} {options : Options} {count : Nat}
  {error : Error} {read : ReadBack}

theorem failing_eq_done {α : Type} {call : Call} {attempt : Attempt Fault α} {value : α} :
    failing path call attempt = .done value ↔ attempt = .done value := Attempt.mapError_eq_done

/-- writing succeeds if opening, every write and the flush do, where one is asked for -/
theorem writePayload_eq_done :
    writePayload path sink bytes options = .done () ↔ retried sink.opens = .done () ∧
      writeAll bytes.length sink.writes = .done () ∧ (options.sync = true → retried sink.syncs = .done ()) := by
  unfold writePayload
  rw [Attempt.then_eq_done, Attempt.then_eq_done, failing_eq_done, failing_eq_done]
  cases options.sync with
  | false => simp [pure]
  | true => simp [failing_eq_done]

/-- writing fails with the first of opening, writing and flushing that does -/
theorem writePayload_eq_failed :
    writePayload path sink bytes options = .failed error ↔
      (∃ fault, retried sink.opens = .failed fault ∧ error = { path, failure := .call .write fault }) ∨
      (retried sink.opens = .done () ∧
        ∃ fault, writeAll bytes.length sink.writes = .failed fault ∧
          error = { path, failure := .call .write fault }) ∨
      (retried sink.opens = .done () ∧ writeAll bytes.length sink.writes = .done () ∧ options.sync = true ∧
        ∃ fault, retried sink.syncs = .failed fault ∧ error = { path, failure := .call .sync fault }) := by
  unfold writePayload
  rw [Attempt.then_eq_failed, Attempt.then_eq_failed, failing_eq_done, failing_eq_done, failing_eq_failed,
    failing_eq_failed]
  cases options.sync with
  | false => simp [pure]
  | true => simp [failing_eq_failed, and_or_left]

theorem readBack_eq_done :
    readBack path source count = .done read ↔ retried source.opens = .done () ∧
      ∃ data, collect count source.reads = .done data ∧ read = { requested := count, data } := by
  unfold readBack
  rw [Attempt.then_eq_done, Attempt.bind_eq_done, failing_eq_done]
  simp [failing_eq_done, pure, eq_comm]

/-- reading back fails with the first of opening and reading that does -/
theorem readBack_eq_failed :
    readBack path source count = .failed error ↔
      (∃ fault, retried source.opens = .failed fault ∧ error = { path, failure := .call .opening fault }) ∨
      (retried source.opens = .done () ∧
        ∃ fault, collect count source.reads = .failed fault ∧ error = { path, failure := .call .read fault }) := by
  unfold readBack
  rw [Attempt.then_eq_failed, Attempt.bind_eq_failed, failing_eq_done, failing_eq_failed, failing_eq_failed]
  simp [pure]

end

theorem writePayload_failed {path : String} {sink : Sink} {bytes : List UInt8} {options : Options} {error : Error}
    (h : writePayload path sink bytes options = .failed error) :
    ∃ call fault, error = { path, failure := .call call fault } := by
  rcases writePayload_eq_failed.1 h with ⟨fault, -, rfl⟩ | ⟨-, fault, -, rfl⟩ | ⟨-, -, -, fault, -, rfl⟩
  · exact ⟨_, fault, rfl⟩
  · exact ⟨_, fault, rfl⟩
  · exact ⟨_, fault, rfl⟩

theorem readBack_failed {path : String} {source : Source} {count : Nat} {error : Error}
    (h : readBack path source count = .failed error) : ∃ call fault, error = { path, failure := .call call fault } := by
  rcases readBack_eq_failed.1 h with ⟨fault, -, rfl⟩ | ⟨-, fault, -, rfl⟩
  · exact ⟨_, fault, rfl⟩
  · exact ⟨_, fault, rfl⟩

/-- a round trip that comes back knows how much was asked for, and has what reading collected -/
theorem roundTrip_done {path : String} {target : Target} {bytes : List UInt8} {options : Options} {read : ReadBack}
    (h : roundTrip path target bytes options = .done read) :
    ∃ data, collect bytes.length target.source.reads = .done data ∧ read = { requested := bytes.length, data } := by
  unfold roundTrip at h
  obtain ⟨-, hread⟩ := Attempt.then_eq_done.1 h
  exact (readBack_eq_done.1 hread).2

/-- **A failing round trip reports a call** on its own path. -/
theorem roundTrip_failed {path : String} {target : Target} {bytes : List UInt8} {options : Options} {error : Error}
    (h : roundTrip path target bytes options = .failed error) :
    ∃ call fault, error = { path, failure := .call call fault } := by
  unfold roundTrip at h
  rcases Attempt.bind_eq_failed.1 h with hwrite | ⟨_, _, hread⟩
  · exact writePayload_failed hwrite
  · exact readBack_failed hread

end BlockProbe.Probe
