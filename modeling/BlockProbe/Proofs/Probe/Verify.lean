/-
What verification finds.

- `firstDifference_eq_none`: two sequences as long as each other are equal when no index tells them apart.
- `firstDifference_eq_some`: the index that is found is the first that does.
- `verify_eq_ok`: verification passes exactly the expected bytes, however much was asked for.
- `verify_of_length`, `verify_of_data`: what it reports of anything else.
- `verify_shortRead_iff`, `verify_mismatch_iff`, `verify_error`: when it reports which, and that it reports nothing
  else.
-/
import BlockProbe.Probe.Basic
import Mathlib.Tactic.Common

namespace BlockProbe.Probe

theorem firstDifference_eq_none {as bs : List UInt8} (h : as.length = bs.length) :
    firstDifference as bs = none ↔ as = bs := by
  induction as generalizing bs with
  | nil =>
    have hnil : bs = [] := List.length_eq_zero_iff.1 h.symm
    subst hnil
    simp [firstDifference]
  | cons a as ih =>
    cases bs with
    | nil => cases h
    | cons b bs =>
      have hrest : as.length = bs.length := Nat.succ.inj h
      by_cases hab : a = b
      · simp [firstDifference, hab, ih hrest]
      · simp [firstDifference, hab]

/-- two byte sequences that are the same in front of an index which both have, and differ there -/
structure DifferFirstAt (first second : List UInt8) (offset : Nat) : Prop where
  inFirst : offset < first.length
  inSecond : offset < second.length
  differ : first[offset]? ≠ second[offset]?
  before : ∀ i < offset, first[i]? = second[i]?

/-- behind a common byte the first difference is one further on -/
theorem differFirstAt_cons {a : UInt8} {as bs : List UInt8} {offset : Nat} :
    DifferFirstAt (a :: as) (a :: bs) offset ↔ ∃ index, DifferFirstAt as bs index ∧ index + 1 = offset := by
  constructor
  · rintro ⟨hfirst, hsecond, hdiffer, hbefore⟩
    cases offset with
    | zero => exact (hdiffer rfl).elim
    | succ index =>
      refine ⟨index, ⟨Nat.lt_of_succ_lt_succ hfirst, Nat.lt_of_succ_lt_succ hsecond, by simpa using hdiffer, ?_⟩, rfl⟩
      exact fun i hi => by simpa using hbefore (i + 1) (Nat.succ_lt_succ hi)
  · rintro ⟨index, ⟨hfirst, hsecond, hdiffer, hbefore⟩, rfl⟩
    refine ⟨Nat.succ_lt_succ hfirst, Nat.succ_lt_succ hsecond, by simpa using hdiffer, fun i hi => ?_⟩
    cases i with
    | zero => rfl
    | succ i => simpa using hbefore i (Nat.lt_of_succ_lt_succ hi)

/-- different bytes are the first difference -/
theorem differFirstAt_cons_of_ne {a b : UInt8} (h : a ≠ b) {as bs : List UInt8} {offset : Nat} :
    DifferFirstAt (a :: as) (b :: bs) offset ↔ 0 = offset := by
  constructor
  · rintro ⟨-, -, -, hbefore⟩
    cases offset with
    | zero => rfl
    | succ index => exact (h (by simpa using hbefore 0 (Nat.succ_pos index))).elim
  · rintro rfl
    exact ⟨Nat.succ_pos _, Nat.succ_pos _, by simpa using h, fun i hi => absurd hi (Nat.not_lt_zero i)⟩

/-- **The index that is found is the first** at which the sequences differ. -/
theorem firstDifference_eq_some {as bs : List UInt8} {offset : Nat} :
    firstDifference as bs = some offset ↔ DifferFirstAt as bs offset := by
  induction as generalizing bs offset with
  | nil => exact ⟨fun h => by simp [firstDifference] at h, fun h => absurd h.inFirst (Nat.not_lt_zero _)⟩
  | cons a as ih =>
    cases bs with
    | nil => exact ⟨fun h => by simp [firstDifference] at h, fun h => absurd h.inSecond (Nat.not_lt_zero _)⟩
    | cons b bs =>
      by_cases hab : a = b
      · subst hab
        rw [firstDifference, if_neg (not_not_intro rfl), Option.map_eq_some_iff, differFirstAt_cons]
        simp only [ih]
      · rw [firstDifference, if_pos hab, Option.some.injEq, differFirstAt_cons_of_ne hab]

/-- **Verification passes exactly the expected bytes.** -/
theorem verify_eq_ok {path : String} {expected : List UInt8} {read : ReadBack} :
    verify path expected read = .ok () ↔ read.data = expected := by
  unfold verify
  by_cases hlength : read.data.length = expected.length
  · rw [if_neg (not_not_intro hlength), ← firstDifference_eq_none hlength]
    cases firstDifference read.data expected <;> simp
  · rw [if_pos hlength]
    constructor
    · intro h; cases h
    · rintro rfl; exact (hlength rfl).elim

/-- another number of bytes is a short read, whatever the bytes are -/
theorem verify_of_length {path : String} {expected : List UInt8} {read : ReadBack}
    (h : read.data.length ≠ expected.length) :
    verify path expected read =
      .error { path, failure := .shortRead expected.length read.data.length } := if_pos h

/-- as many bytes but other ones are a mismatch at the first difference -/
theorem verify_of_data {path : String} {expected : List UInt8} {read : ReadBack}
    (hlength : read.data.length = expected.length) (hdata : read.data ≠ expected) :
    ∃ offset, firstDifference read.data expected = some offset ∧
      verify path expected read = .error { path, failure := .mismatch offset } := by
  cases hdiff : firstDifference read.data expected with
  | none => exact (hdata ((firstDifference_eq_none hlength).1 hdiff)).elim
  | some offset =>
    refine ⟨offset, rfl, ?_⟩
    unfold verify
    rw [if_neg (not_not_intro hlength), hdiff]

/-! ## What is reported -/

section Reported

variable {path : String} {expected : List UInt8} {read : ReadBack}

/-- what verification comes to: it passes, or the lengths differ, or the bytes do -/
theorem verify_cases (path : String) (expected : List UInt8) (read : ReadBack) :
    verify path expected read = .ok () ∨
    (read.data.length ≠ expected.length ∧
      verify path expected read =
        .error { path, failure := .shortRead expected.length read.data.length }) ∨
    ∃ offset, read.data.length = expected.length ∧ DifferFirstAt read.data expected offset ∧
      verify path expected read = .error { path, failure := .mismatch offset } := by
  by_cases hlength : read.data.length = expected.length
  · by_cases hdata : read.data = expected
    · exact .inl (verify_eq_ok.2 hdata)
    · obtain ⟨offset, hdiff, hverify⟩ := @verify_of_data path _ _ hlength hdata
      exact .inr (.inr ⟨offset, hlength, firstDifference_eq_some.1 hdiff, hverify⟩)
  · exact .inr (.inl ⟨hlength, verify_of_length hlength⟩)

/-- **A short read is reported where the lengths differ**, with both of them. -/
theorem verify_shortRead_iff {wanted got : Nat} :
    verify path expected read = .error { path, failure := .shortRead wanted got } ↔
      read.data.length ≠ expected.length ∧ wanted = expected.length ∧ got = read.data.length := by
  constructor
  · intro h
    rcases verify_cases path expected read with hok | ⟨hlength, hshort⟩ | ⟨_, _, _, hmismatch⟩
    · rw [hok] at h; cases h
    · rw [hshort] at h; cases h; exact ⟨hlength, rfl, rfl⟩
    · rw [hmismatch] at h; cases h
  · rintro ⟨hlength, rfl, rfl⟩
    exact verify_of_length hlength

/-- **A mismatch is reported where the lengths are equal**, at the first index at which the bytes differ. -/
theorem verify_mismatch_iff {offset : Nat} :
    verify path expected read = .error { path, failure := .mismatch offset } ↔
      read.data.length = expected.length ∧ DifferFirstAt read.data expected offset := by
  constructor
  · intro h
    rcases verify_cases path expected read with hok | ⟨_, hshort⟩ | ⟨_, hlength, hdiffer, hmismatch⟩
    · rw [hok] at h; cases h
    · rw [hshort] at h; cases h
    · rw [hmismatch] at h; cases h; exact ⟨hlength, hdiffer⟩
  · rintro ⟨hlength, hdiffer⟩
    unfold verify
    rw [if_neg (not_not_intro hlength), firstDifference_eq_some.2 hdiffer]

/-- nothing else is reported, and always the path that was given -/
theorem verify_error {error : Error} (h : verify path expected read = .error error) :
    error.path = path ∧
      ((∃ wanted got, error.failure = .shortRead wanted got) ∨ ∃ offset, error.failure = .mismatch offset) := by
  rcases verify_cases path expected read with hok | ⟨_, hshort⟩ | ⟨offset, _, _, hmismatch⟩
  · rw [hok] at h; cases h
  · rw [hshort] at h; cases h; exact ⟨rfl, .inl ⟨_, _, rfl⟩⟩
  · rw [hmismatch] at h; cases h; exact ⟨rfl, .inr ⟨offset, rfl⟩⟩

end Reported

end BlockProbe.Probe
