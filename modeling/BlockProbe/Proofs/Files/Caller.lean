/-
Permission bits, created, changed and asked for.

- `KeepsPermissions`, `modeAfterChange_keeps`: what a change of content leaves of a file's mode.
- `modeAfterChange_idem`: a second change leaves what the first one left.
- `CreatedAs`, `createdAs`: the mode of a file that was created and written.
- `mayOpen_congr`: whether a file opens depends on who may read and write it, so a change of content does not matter.
-/
import BlockProbe.Files.Caller
import Mathlib.Tactic.Common

namespace BlockProbe.Files

/-! ## Bits -/

theorem and_and_of_and {mode bits fewer : UInt32} (h : bits &&& fewer = fewer) :
    mode &&& bits &&& fewer = mode &&& fewer := by
  rw [UInt32.and_assoc, h]

theorem and_eq_zero_of_and {mode bits fewer : UInt32} (hbits : bits &&& fewer = fewer) (h : mode &&& bits = 0) :
    mode &&& fewer = 0 := by
  rw [← and_and_of_and hbits, h, UInt32.zero_and]

theorem and_not_of_and_eq_zero {mode bits : UInt32} (h : mode &&& bits = 0) : mode &&& ~~~bits = mode := by
  apply UInt32.toBitVec_inj.1
  ext i hi
  have hbit : (mode.toBitVec[i] && bits.toBitVec[i]) = false := by
    simpa using congrArg (fun other => other.toBitVec[i]) h
  cases hmode : mode.toBitVec[i] <;> simp_all

/-! ## A change of content -/

/-- what a change of content leaves of a mode: who may read, write and execute stays, and so does the sticky bit. Of a
process that may keep them, and of a file without them, that is everything; otherwise the set-user-id bit goes, and the
set-group-id bit where the group may execute the file or the process is outside the group. -/
structure KeepsPermissions (caller : Caller) (location : Location) (old mode : UInt32) : Prop where
  permissions : mode &&& 0o1777 = old &&& 0o1777
  plain : old &&& 0o6000 = 0 → mode = old
  privileged : caller.keepsSetIds = true → mode = old
  user : caller.keepsSetIds = false → mode &&& 0o4000 = 0
  group : caller.keepsSetIds = false →
    mode &&& 0o2000 = if old &&& 0o0010 ≠ 0 ∨ caller.isMember location = false then 0 else old &&& 0o2000

namespace Caller

variable {caller : Caller} {location : Location} {access : Access} {mode other requested : UInt32}

theorem modeAfterChange_of_keeps (h : caller.keepsSetIds = true) : caller.modeAfterChange location mode = mode := by
  unfold modeAfterChange
  rw [if_pos h]

theorem modeAfterChange_of_drops (h : caller.keepsSetIds = false) :
    caller.modeAfterChange location mode =
      if mode &&& 0o0010 ≠ 0 ∨ caller.isMember location = false then mode &&& ~~~0o4000 &&& ~~~0o2000
      else mode &&& ~~~0o4000 := by
  have hgroup : mode &&& ~~~0o4000 &&& 0o0010 = mode &&& 0o0010 := and_and_of_and rfl
  unfold modeAfterChange
  simp only [h, hgroup, Bool.false_eq_true, if_false, Bool.not_eq_true']

/-- without set-id bits a mode stays as it is -/
theorem modeAfterChange_of_plain (h : mode &&& 0o6000 = 0) : caller.modeAfterChange location mode = mode := by
  cases hkeeps : caller.keepsSetIds with
  | true => exact modeAfterChange_of_keeps hkeeps
  | false =>
    have huser : mode &&& 0o4000 = 0 := and_eq_zero_of_and rfl h
    have hgroup : mode &&& 0o2000 = 0 := and_eq_zero_of_and rfl h
    rw [modeAfterChange_of_drops hkeeps, and_not_of_and_eq_zero huser, and_not_of_and_eq_zero hgroup, ite_self]

theorem modeAfterChange_keeps (caller : Caller) (location : Location) (mode : UInt32) :
    KeepsPermissions caller location mode (caller.modeAfterChange location mode) := by
  refine ⟨?_, modeAfterChange_of_plain, modeAfterChange_of_keeps, ?_, ?_⟩
  · cases hkeeps : caller.keepsSetIds with
    | true => rw [modeAfterChange_of_keeps hkeeps]
    | false =>
      rw [modeAfterChange_of_drops hkeeps]
      split_ifs
      · rw [and_and_of_and rfl, and_and_of_and rfl]
      · rw [and_and_of_and rfl]
  · intro hkeeps
    rw [modeAfterChange_of_drops hkeeps]
    split_ifs
    · simp only [UInt32.and_assoc]; exact UInt32.and_zero
    · simp only [UInt32.and_assoc]; exact UInt32.and_zero
  · intro hkeeps
    rw [modeAfterChange_of_drops hkeeps]
    split_ifs
    · simp only [UInt32.and_assoc]; exact UInt32.and_zero
    · rw [and_and_of_and rfl]

/-- **A second change of content** changes no mode. -/
theorem modeAfterChange_idem (caller : Caller) (location : Location) (mode : UInt32) :
    caller.modeAfterChange location (caller.modeAfterChange location mode) = caller.modeAfterChange location mode := by
  cases hkeeps : caller.keepsSetIds with
  | true => exact modeAfterChange_of_keeps hkeeps
  | false =>
    obtain ⟨hkept, -, -, huser, hgroup⟩ := modeAfterChange_keeps caller location mode
    generalize caller.modeAfterChange location mode = changed at *
    have hexecute : changed &&& 0o0010 = mode &&& 0o0010 := by
      have hbits : (0o1777 : UInt32) &&& 0o0010 = 0o0010 := rfl
      rw [← and_and_of_and hbits, hkept, and_and_of_and hbits]
    rw [modeAfterChange_of_drops hkeeps, and_not_of_and_eq_zero (huser hkeeps), hexecute]
    split_ifs with hif
    · exact and_not_of_and_eq_zero ((hgroup hkeeps).trans (if_pos hif))
    · rfl

/-! ## A new file -/

theorem createdMode_of_keeps (h : caller.keepsSetIds = true) :
    caller.createdMode location requested = caller.masked requested := by
  unfold createdMode
  rw [if_neg (by simp [h])]

theorem masked_and (caller : Caller) {requested bits : UInt32} (h : requested &&& bits = 0) :
    caller.masked requested &&& bits = 0 := by
  unfold masked
  rw [UInt32.and_assoc requested, UInt32.and_assoc, UInt32.and_comm _ bits, ← UInt32.and_assoc, h, UInt32.zero_and]

/-- a mode without set-id bits creates a file without them -/
theorem createdMode_of_plain (h : requested &&& 0o6000 = 0) :
    caller.createdMode location requested = caller.masked requested := by
  have hgroup : requested &&& 0o2010 ≠ 0o2010 := by
    intro heq
    have hbit : requested &&& 0o2010 &&& 0o2000 = requested &&& 0o2000 := and_and_of_and rfl
    rw [heq, and_eq_zero_of_and rfl h] at hbit
    exact absurd hbit (by decide)
  unfold createdMode
  rw [if_neg fun hstripped => hgroup hstripped.1]

theorem createdMode_permissions (caller : Caller) (location : Location) (requested : UInt32) :
    caller.createdMode location requested &&& 0o1777 = caller.masked requested &&& 0o1777 := by
  unfold createdMode
  dsimp only
  split_ifs
  · exact and_and_of_and rfl
  · rfl

/-! ## Bytes written -/

/-- the mode of a file after bytes were written to it -/
def writtenMode (caller : Caller) (location : Location) (mode : UInt32) (bytes : List UInt8) : UInt32 :=
  if bytes.isEmpty then mode else caller.modeAfterChange location mode

theorem writtenMode_of_ne_nil {bytes : List UInt8} (h : bytes ≠ []) :
    caller.writtenMode location mode bytes = caller.modeAfterChange location mode :=
  if_neg (mt List.isEmpty_iff.1 h)

theorem writtenMode_of_plain (h : mode &&& 0o6000 = 0) (bytes : List UInt8) :
    caller.writtenMode location mode bytes = mode := by
  unfold writtenMode
  rw [modeAfterChange_of_plain h, ite_self]

theorem writtenMode_of_keeps (h : caller.keepsSetIds = true) (bytes : List UInt8) :
    caller.writtenMode location mode bytes = mode := by
  unfold writtenMode
  rw [modeAfterChange_of_keeps h, ite_self]

theorem writtenMode_permissions (caller : Caller) (location : Location) (mode : UInt32) (bytes : List UInt8) :
    caller.writtenMode location mode bytes &&& 0o1777 = mode &&& 0o1777 := by
  unfold writtenMode
  split_ifs
  · rfl
  · exact (modeAfterChange_keeps caller location mode).permissions

/-- a file that is opened has changed already, so writing to it changes its mode no more -/
theorem writtenMode_modeAfterChange (caller : Caller) (location : Location) (mode : UInt32) (bytes : List UInt8) :
    caller.writtenMode location (caller.modeAfterChange location mode) bytes =
      caller.modeAfterChange location mode := by
  unfold writtenMode
  rw [modeAfterChange_idem, ite_self]

/-- of a file that is written bit by bit the mode changes once -/
theorem writtenMode_writtenMode (caller : Caller) (location : Location) (mode : UInt32) {bytes more : List UInt8}
    (h : more = [] → bytes = []) :
    caller.writtenMode location (caller.writtenMode location mode bytes) more =
      caller.writtenMode location mode more := by
  cases more with
  | nil => rw [h rfl]; rfl
  | cons byte rest =>
    cases bytes with
    | nil => rfl
    | cons _ _ => exact modeAfterChange_idem caller location mode

/-! ## Asking for permission -/

theorem Standing.bit_permissions (standing : Standing) (access : Access) :
    0o1777 &&& standing.bit access = standing.bit access := by
  cases standing <;> cases access <;> rfl

theorem isPermitted_congr (h : mode &&& 0o1777 = other &&& 0o1777) :
    caller.isPermitted access location mode = caller.isPermitted access location other := by
  have hbit := Standing.bit_permissions (caller.standing location) access
  unfold isPermitted
  rw [← and_and_of_and hbit, h, and_and_of_and hbit]

/-- **Whether a file opens** depends on who may read and write it, not on its other bits nor on its content. -/
theorem mayOpen_congr (h : mode &&& 0o1777 = other &&& 0o1777) (content otherContent : List UInt8) :
    caller.mayOpen access location (.file mode content) =
      caller.mayOpen access location (.file other otherContent) := by
  unfold mayOpen
  dsimp only
  rw [isPermitted_congr h]

/-- a file opens to whom its permission bits let in -/
theorem mayOpen_of_bit (hopens : caller.opens access location = true)
    (h : mode &&& (caller.standing location).bit access ≠ 0) (content : List UInt8) :
    caller.mayOpen access location (.file mode content) = true := by
  unfold mayOpen isPermitted
  simp [hopens, h]

end Caller

/-! ## Created and written -/

/-- the mode of a file that was created and then written: what was asked for less what the process masks, but for the
set-id bits that the creation or the first byte takes away -/
structure CreatedAs (caller : Caller) (location : Location) (requested : UInt32) (bytes : List UInt8) (mode : UInt32) :
    Prop where
  permissions : mode &&& 0o1777 = caller.masked requested &&& 0o1777
  plain : requested &&& 0o6000 = 0 → mode = caller.masked requested
  privileged : caller.keepsSetIds = true → mode = caller.masked requested
  empty : bytes = [] → mode = caller.createdMode location requested
  written : bytes ≠ [] → KeepsPermissions caller location (caller.createdMode location requested) mode

theorem createdAs (caller : Caller) (location : Location) (requested : UInt32) (bytes : List UInt8) :
    CreatedAs caller location requested bytes
      (caller.writtenMode location (caller.createdMode location requested) bytes) where
  permissions := by rw [Caller.writtenMode_permissions, Caller.createdMode_permissions]
  plain hplain := by
    rw [Caller.createdMode_of_plain hplain, Caller.writtenMode_of_plain (Caller.masked_and caller hplain)]
  privileged hkeeps := by rw [Caller.writtenMode_of_keeps hkeeps, Caller.createdMode_of_keeps hkeeps]
  empty hempty := by
    subst hempty
    rfl
  written hbytes := by
    rw [Caller.writtenMode_of_ne_nil hbytes]
    exact Caller.modeAfterChange_keeps caller location _

end BlockProbe.Files
