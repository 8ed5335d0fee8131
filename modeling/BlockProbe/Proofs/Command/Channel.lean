/-
Calls that wait for a value on a channel.

`Completes` says that a call comes back with a value if nobody interferes. `Attends` is what holds of a receiving side
as long as the channel is not closed in vain: its call is about to look at the value, or it waits for a change and has
not seen the value that is there. So no value that is published escapes a call.

- `look_ready`: a call comes back with the value that is there.
- `Attends.publish`, `Attends.look`: publishing and looking keep a receiving side attending.
- `Attends.completes`: once there is a value, every call comes back with it.
-/
import BlockProbe.Command.Channel
import Mathlib.Tactic.Common

namespace BlockProbe.Command

variable {α : Type} {channel : Channel α} {receiver after : Receiver} {value : α}

/-- the call comes back with this value if nobody interferes -/
inductive Channel.Completes (channel : Channel α) : Receiver → α → Prop
  | now {receiver after : Receiver} {value : α} (hlook : channel.look receiver = (after, .ready value)) :
    Completes channel receiver value
  | again {receiver after : Receiver} {value : α} (hlook : channel.look receiver = (after, .again))
    (rest : Completes channel after value) : Completes channel receiver value

/-- the call is about to look at the value, or waits for a change and has not seen the value that is there -/
structure Channel.Attends (channel : Channel α) (receiver : Receiver) : Prop where
  seen : receiver.seen ≤ channel.version
  wait : receiver.wait = .fresh ∨
    receiver.wait = .watching ∧ (channel.value ≠ none → receiver.seen ≠ channel.version)

namespace Channel

/-- **A call comes back with the value that is there.** -/
theorem look_ready (h : channel.look receiver = (after, .ready value)) : channel.value = some value := by
  unfold look at h
  cases hwait : receiver.wait with
  | fresh =>
    rw [hwait] at h
    cases hvalue : channel.value with
    | none => rw [hvalue] at h; cases h
    | some other => rw [hvalue] at h; cases h; rfl
  | watching =>
    simp only [hwait] at h
    split_ifs at h <;> cases h
  | last =>
    simp only [hwait] at h
    split_ifs at h
    · cases hvalue : channel.value with
      | none => rw [hvalue] at h; cases h
      | some other => rw [hvalue] at h; cases h; rfl
    · cases h
  | stranded => rw [hwait] at h; cases h

theorem Completes.value_eq (h : channel.Completes receiver value) : channel.value = some value := by
  induction h with
  | now hlook => exact look_ready hlook
  | again _ _ ih => exact ih

theorem look_calling (h : channel.value = some value) (hwait : receiver.wait = .fresh) :
    channel.look receiver = ({ seen := channel.version, wait := .fresh }, .ready value) := by
  unfold look
  rw [hwait, h]

/-- a call that starts when there is a value comes back with it at once -/
theorem completes_calling (h : channel.value = some value) (receiver : Receiver) :
    channel.Completes receiver.calling value := .now (look_calling h rfl)

/-! ## A receiving side that attends -/

theorem Attends.calling (h : channel.Attends receiver) : channel.Attends receiver.calling :=
  ⟨h.seen, .inl rfl⟩

/-- a published value is one the receiving side has not seen -/
theorem Attends.publish (h : channel.Attends receiver) (value : α) : (channel.publish value).Attends receiver := by
  have hseen := h.seen
  refine ⟨Nat.le_succ_of_le hseen, ?_⟩
  rcases h.wait with hfresh | ⟨hwatching, -⟩
  · exact .inl hfresh
  · exact .inr ⟨hwatching, fun _ => Nat.ne_of_lt (Nat.lt_succ_of_le hseen)⟩

theorem Attends.close (h : channel.Attends receiver) : channel.close.Attends receiver := ⟨h.seen, h.wait⟩

/-- a look at a channel that is not closed in vain -/
theorem Attends.look (h : channel.Attends receiver) (hopen : channel.value = none → channel.closed = false) :
    channel.Attends (channel.look receiver).1 := by
  rcases h.wait with hfresh | ⟨hwatching, hunseen⟩
  · cases hvalue : channel.value with
    | some value =>
      rw [look_calling hvalue hfresh]
      exact ⟨Nat.le_refl _, .inl rfl⟩
    | none =>
      have hlook : channel.look receiver = ({ seen := channel.version, wait := .watching }, .again) := by
        unfold Channel.look
        rw [hfresh, hvalue]
      rw [hlook]
      exact ⟨Nat.le_refl _, .inr ⟨rfl, fun hsome => (hsome hvalue).elim⟩⟩
  · unfold Channel.look
    simp only [hwatching]
    split_ifs with hchanged hclosed
    · exact ⟨Nat.le_refl _, .inl rfl⟩
    · -- nothing has changed, so there is no value, and the channel would be closed in vain
      have hnone : channel.value = none := by
        by_contra hsome
        exact hchanged (hunseen hsome)
      rw [hopen hnone] at hclosed
      cases hclosed
    · exact ⟨h.seen, .inr ⟨hwatching, hunseen⟩⟩

/-- **No call misses a value.** Once there is a value, a call under way comes back with it. -/
theorem Attends.completes (h : channel.Attends receiver) (hvalue : channel.value = some value) :
    channel.Completes receiver value := by
  rcases h.wait with hfresh | ⟨hwatching, hunseen⟩
  · exact .now (look_calling hvalue hfresh)
  · have hchanged : receiver.seen ≠ channel.version := hunseen (by rw [hvalue]; simp)
    have hlook : channel.look receiver = ({ seen := channel.version, wait := .fresh }, .again) := by
      unfold Channel.look
      simp only [hwatching, if_pos hchanged]
    exact .again hlook (.now (look_calling hvalue rfl))

end Channel

end BlockProbe.Command
