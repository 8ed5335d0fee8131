/-
The verdict on what came back.

Lengths are compared first and bytes second, so a read-back of another length is a short read whatever its bytes are,
and one of the right length is a mismatch at the first byte that differs. A round trip asks for as many bytes as it
wrote and never collects more, so what comes back is either complete or too short.

- `Judged`: which verdict falls on any read-back.
- `Returned`: what is known of the read-back of a round trip.
- `verdict_exact`: both, for every read-back and every target.
-/
import BlockProbe.Proofs.Probe.Buffer
import BlockProbe.Proofs.Probe.Target
import BlockProbe.Proofs.Probe.Verify

namespace BlockProbe.Probe

open BlockProbe.Files (Attempt)

variable {path : String} {target : Target} {bytes expected : List UInt8} {options : Options} {read : ReadBack}

/-- Which verdict falls on a read-back, however much was asked for. -/
structure Judged (path : String) (expected : List UInt8) (read : ReadBack) : Prop where
  passes : verify path expected read = .ok () ↔ read.data = expected
  holds : read.holds expected = true ↔ read.data = expected
  shortRead (wanted got : Nat) :
    verify path expected read = .error { path, failure := .shortRead wanted got } ↔
      read.data.length ≠ expected.length ∧ wanted = expected.length ∧ got = read.data.length
  mismatch (offset : Nat) :
    verify path expected read = .error { path, failure := .mismatch offset } ↔
      read.data.length = expected.length ∧ DifferFirstAt read.data expected offset
  /-- there is no other verdict, and none on another path -/
  only (error : Error) : verify path expected read = .error error →
    error.path = path ∧
      ((∃ wanted got, error.failure = .shortRead wanted got) ∨ ∃ offset, error.failure = .mismatch offset)

/-- What is known of a read-back that a round trip of these bytes returned, and of the verdict on it. -/
structure Returned (bytes : List UInt8) (read : ReadBack) : Prop where
  requested : read.requested = bytes.length
  bounded : read.data.length ≤ bytes.length
  shortRead (path : String) :
    (∃ wanted got, verify path bytes read = .error { path, failure := .shortRead wanted got }) ↔
      read.isComplete = false
  fewer (path : String) (wanted got : Nat) :
    verify path bytes read = .error { path, failure := .shortRead wanted got } →
      wanted = read.requested ∧ got = read.data.length ∧ got < wanted
  complete (path : String) : verify path bytes read = .ok () → read.isComplete = true

theorem isComplete_iff : read.isComplete = true ↔ read.data.length = read.requested := beq_iff_eq

theorem judged (path : String) (expected : List UInt8) (read : ReadBack) : Judged path expected read where
  passes := verify_eq_ok
  holds := beq_iff_eq
  shortRead _ _ := verify_shortRead_iff
  mismatch _ := verify_mismatch_iff
  only _ h := verify_error h

/-- **A round trip returns no more than was written**, so a read-back of another length is too short. -/
theorem returned (h : roundTrip path target bytes options = .done read) : Returned bytes read := by
  obtain ⟨data, hcollect, rfl⟩ := roundTrip_done h
  have hbounded : data.length ≤ bytes.length := collect_length_le hcollect
  refine ⟨rfl, hbounded, fun name => ?_, fun name wanted got hshort => ?_, fun name hpasses => ?_⟩
  · rw [← Bool.not_eq_true, isComplete_iff]
    constructor
    · rintro ⟨wanted, got, hshort⟩
      exact (verify_shortRead_iff.1 hshort).1
    · intro hlength
      exact ⟨_, _, verify_of_length hlength⟩
  · obtain ⟨hlength, rfl, rfl⟩ := verify_shortRead_iff.1 hshort
    exact ⟨rfl, rfl, Nat.lt_of_le_of_ne hbounded hlength⟩
  · have hdata : data = bytes := verify_eq_ok.1 hpasses
    exact isComplete_iff.2 (congrArg List.length hdata)

/-- **The verdict is exact.** Verification passes the expected bytes alone, reports a short read with both lengths
exactly where they differ, and a mismatch exactly at the first difference of bytes that are as many. What a round trip
returns is never longer than what was written, whatever its target does; it is too short exactly where it is not
complete. -/
theorem verdict_exact :
    (∀ path expected read, Judged path expected read) ∧
    (∀ path target bytes options read, roundTrip path target bytes options = .done read → Returned bytes read) :=
  ⟨judged, fun _ _ _ _ _ h => returned h⟩

/-! A target that gives back less than was written to it, and other bytes: a short read, not a mismatch. -/

def shortened : Target where
  sink := { opens := [.ok ()], writes := [.ok 15], syncs := [] }
  source := { opens := [.ok ()], reads := [.ok (Text.encode "Exc"), .error (.os 4), .ok (Text.encode "ess"), .ok []] }

theorem shortened_returns : roundTrip "t" shortened payload {} =
    .done { requested := 15, data := Text.encode "Excess" } := by cbv

theorem shortened_verdict :
    roundTrip "t" shortened payload {} = .done { requested := 15, data := Text.encode "Excess" } ∧
    Returned payload { requested := 15, data := Text.encode "Excess" } ∧
    verify "t" payload { requested := 15, data := Text.encode "Excess" } =
      .error { path := "t", failure := .shortRead 15 6 } ∧
    verify "t" payload { requested := 3, data := Text.encode "Excelero NVMasH" } =
      .error { path := "t", failure := .mismatch 12 } := by
  obtain ⟨hjudged, hreturned⟩ := verdict_exact
  refine ⟨shortened_returns, hreturned _ _ _ _ _ shortened_returns, ?_, ?_⟩
  · exact ((hjudged _ _ _).shortRead 15 6).2 ⟨by cbv, by cbv, by cbv⟩
  · refine ((hjudged _ _ _).mismatch 12).2 ⟨by cbv, by decide, by decide, by decide, by decide⟩

end BlockProbe.Probe
