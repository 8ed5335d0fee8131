/-
Decimal numbers as they are read back.

A printed number is a run of digits without a leading zero, and what follows it is the end of its line. `Digits` is
that run; every reader that is tried before the integer's stops inside it or right behind it.

- `readDigits_digits`: the whole run is read.
- `readMoment_digits`, `readDecimal_digits`, `readSpecial_digits`: it is nothing else than an integer.
- `readNumeric_toDigits`: a number in range is read back.
-/
import BlockProbe.Proofs.Results
import BlockProbe.Toml.Read

namespace BlockProbe.Toml

/-- nothing but decimal digits -/
def Digits (digits : List Char) : Prop := ∀ c ∈ digits, isDigit c = true

/-! ## The digits of a number -/

theorem isDigit_digitChar {n : Nat} (h : n < 10) : isDigit n.digitChar = true := by
  revert n; decide

theorem digitValue_digitChar {n : Nat} (h : n < 10) : digitValue n.digitChar = n := by
  revert n; decide

theorem digits_toDigits (n : Nat) : Digits (Nat.toDigits 10 n) := by
  induction n using Nat.strongRecOn with
  | ind n ih =>
    intro c hc
    rw [Nat.toDigits_eq_if (by decide)] at hc
    split_ifs at hc with hsmall
    · rw [List.mem_singleton] at hc
      subst hc
      exact isDigit_digitChar hsmall
    · rcases List.mem_append.1 hc with hc | hc
      · exact ih (n / 10) (by omega) c hc
      · rw [List.mem_singleton] at hc
        subst hc
        exact isDigit_digitChar (by omega)

/-- no number but zero begins with a zero -/
theorem head_toDigits {n : Nat} (h : 0 < n) : (Nat.toDigits 10 n).head? ≠ some '0' := by
  induction n using Nat.strongRecOn with
  | ind n ih =>
    rw [Nat.toDigits_eq_if (by decide)]
    split_ifs with hsmall
    · simp only [List.head?_cons, ne_eq, Option.some.injEq, Nat.digitChar_eq_zero]
      omega
    · rw [List.head?_append_of_ne_nil _ Nat.toDigits_ne_nil]
      exact ih (n / 10) (by omega) (by omega)

theorem valueOf_append (base : Nat) (digits : List Char) (c : Char) :
    valueOf base (digits ++ [c]) = valueOf base digits * base + digitValue c := by
  rw [valueOf, List.foldl_append]
  rfl

theorem valueOf_toDigits (n : Nat) : valueOf 10 (Nat.toDigits 10 n) = n := by
  induction n using Nat.strongRecOn with
  | ind n ih =>
    rw [Nat.toDigits_eq_if (by decide)]
    split_ifs with hsmall
    · simp [valueOf, digitValue_digitChar hsmall]
    · rw [valueOf_append, ih (n / 10) (by omega), digitValue_digitChar (by omega)]
      omega

/-! ## Readers on a run of digits -/

theorem isDigit_iff {c : Char} : isDigit c = true ↔ '0' ≤ c ∧ c ≤ '9' := by
  simp [isDigit]

theorem isDigitOf_ten {c : Char} (h : isDigit c = true) : isDigitOf 10 c = true := by
  have hrange := isDigit_iff.1 h
  have hle : c.toNat ≤ '9'.toNat := hrange.2
  have hbase : '9'.toNat = 57 := rfl
  have hzero : '0'.toNat = 48 := rfl
  simp only [isDigitOf, digitValue, if_pos hrange, decide_eq_true_eq]
  omega

/-- a digit is none of the other characters that a value or a part of it begins with -/
theorem ne_of_isDigit {c other : Char} (h : isDigit c = true) (hother : isDigit other = false) : c ≠ other := by
  rintro rfl
  rw [h] at hother
  cases hother

theorem groupedDigits_digits {digits : List Char} (h : Digits digits) (taken rest : List Char) :
    groupedDigits 10 taken (digits ++ '\n' :: rest) = (digits.reverse ++ taken, '\n' :: rest) := by
  induction digits generalizing taken with
  | nil =>
    cases rest with
    | nil => simp [groupedDigits, isDigitOf, digitValue]
    | cons c rest => simp [groupedDigits, isDigitOf, digitValue]
  | cons d digits ih =>
    have hd : isDigitOf 10 d = true := isDigitOf_ten (h d (by simp))
    have hrest := ih (fun c hc => h c (by simp [hc])) (d :: taken)
    cases hmore : digits ++ '\n' :: rest with
    | nil => simp at hmore
    | cons c more =>
      rw [List.cons_append, hmore, groupedDigits, if_pos hd, ← hmore, hrest]
      simp

theorem readDigits_digits {digits : List Char} (h : Digits digits) (hne : digits ≠ []) (rest : List Char) :
    readDigits 10 (digits ++ '\n' :: rest) = some (digits, '\n' :: rest) := by
  unfold readDigits
  rw [groupedDigits_digits h]
  simp [hne]

/-- a run of digits that may be read as a whole number: a zero stands alone -/
theorem readWhole_digits {digits : List Char} (h : Digits digits) (hne : digits ≠ [])
    (hzero : digits.head? = some '0' → digits = ['0']) (rest : List Char) :
    readWhole (digits ++ '\n' :: rest) = some (digits, '\n' :: rest) := by
  cases digits with
  | nil => exact (hne rfl).elim
  | cons d digits =>
    by_cases hd : d = '0'
    · subst hd
      cases hzero rfl
      rfl
    · rw [List.cons_append, readWhole, ← List.cons_append, readDigits_digits h hne]
      intro more heq
      exact hd (List.cons.inj heq).1

/-- a fixed number of digits cannot reach past the run -/
theorem fixedDigits_digits {digits rest more : List Char} (h : Digits digits) {count n : Nat}
    (hread : fixedDigits count (digits ++ '\n' :: rest) = some (n, more)) :
    ∃ left, Digits left ∧ more = left ++ '\n' :: rest := by
  simp only [fixedDigits] at hread
  split_ifs at hread with htaken
  obtain ⟨-, hall⟩ := htaken
  cases hread
  have hcount : count ≤ digits.length := by
    by_contra hlong
    have hmem : '\n' ∈ (digits ++ '\n' :: rest).take count := by
      obtain ⟨extra, hextra⟩ : ∃ extra, count - digits.length = extra + 1 :=
        ⟨count - digits.length - 1, by omega⟩
      rw [List.take_append, hextra]
      simp
    exact absurd (List.all_eq_true.1 hall _ hmem) (by decide)
  exact ⟨digits.drop count, fun c hc => h c (List.mem_of_mem_drop hc), List.drop_append_of_le_length hcount⟩

/-- inside the run or right behind it there is no character but a digit and the line end -/
theorem expect_digits {digits : List Char} (h : Digits digits) {c : Char} (hdigit : isDigit c = false) (hc : c ≠ '\n')
    (rest : List Char) : expect c (digits ++ '\n' :: rest) = none := by
  cases digits with
  | nil => exact if_neg hc.symm
  | cons d digits => exact if_neg (ne_of_isDigit (h d (by simp)) hdigit)

theorem readDate_digits {digits : List Char} (h : Digits digits) (rest : List Char) :
    readDate (digits ++ '\n' :: rest) = none := by
  unfold readDate
  cases hyear : fixedDigits 4 (digits ++ '\n' :: rest) with
  | none => rfl
  | some read =>
    obtain ⟨left, hleft, hmore⟩ := fixedDigits_digits h hyear
    have hdash : expect '-' read.2 = none := by rw [hmore, expect_digits hleft (by decide) (by decide)]
    simp only [Option.bind_eq_bind, Option.bind_some, hdash, Option.bind_none]

theorem readTime_digits {digits : List Char} (h : Digits digits) (rest : List Char) :
    readTime (digits ++ '\n' :: rest) = none := by
  unfold readTime
  cases hhour : fixedDigits 2 (digits ++ '\n' :: rest) with
  | none => rfl
  | some read =>
    obtain ⟨left, hleft, hmore⟩ := fixedDigits_digits h hhour
    have hcolon : expect ':' read.2 = none := by rw [hmore, expect_digits hleft (by decide) (by decide)]
    simp only [Option.bind_eq_bind, Option.bind_some, hcolon, Option.bind_none]

theorem readMoment_digits {digits : List Char} (h : Digits digits) (rest : List Char) :
    readMoment (digits ++ '\n' :: rest) = none := by
  unfold readMoment
  rw [readDate_digits h, readTime_digits h]
  rfl

/-- a run of digits has no sign -/
theorem readSign_digits {digits : List Char} (h : Digits digits) (rest : List Char) :
    readSign (digits ++ '\n' :: rest) = (false, digits ++ '\n' :: rest) := by
  cases digits with
  | nil => rfl
  | cons d digits =>
    have hd := h d (by simp)
    rw [List.cons_append, readSign]
    · intro more heq
      exact ne_of_isDigit hd (by decide) (List.cons.inj heq).1
    · intro more heq
      exact ne_of_isDigit hd (by decide) (List.cons.inj heq).1

section Whole

variable {digits : List Char} (h : Digits digits) (hne : digits ≠ []) (hzero : digits.head? = some '0' → digits = ['0'])
include h hne

theorem readSpecial_digits (rest : List Char) : readSpecial (digits ++ '\n' :: rest) = none := by
  unfold readSpecial
  rw [readSign_digits h]
  cases digits with
  | nil => exact (hne rfl).elim
  | cons d digits =>
    have hd := h d (by simp)
    have hi : d ≠ 'i' := ne_of_isDigit hd (by decide)
    have hn : d ≠ 'n' := ne_of_isDigit hd (by decide)
    simp [hi, hn]

include hzero

theorem readDecimal_digits (rest : List Char) : readDecimal (digits ++ '\n' :: rest) = none := by
  unfold readDecimal
  simp only [readSign_digits h, readWhole_digits h hne hzero, Option.bind_eq_bind, Option.bind_some]
  rfl

omit h in
/-- a run of digits has no mark of another base behind a zero -/
theorem not_based_digits {mark : Char} (hmark : mark ≠ '\n') {rest : List Char} :
    ∀ more, digits ++ '\n' :: rest = '0' :: mark :: more → False := by
  intro more heq
  cases digits with
  | nil => exact (hne rfl).elim
  | cons d digits =>
    obtain ⟨rfl, hbehind⟩ := List.cons.inj heq
    cases hzero rfl
    exact hmark (List.cons.inj hbehind).1.symm

theorem readInteger_digits (rest : List Char) :
    readInteger (digits ++ '\n' :: rest) =
      (toInt64? (valueOf 10 digits)).map fun value => (value, '\n' :: rest) := by
  rw [readInteger]
  · simp only [readSign_digits h, readWhole_digits h hne hzero, Option.bind_eq_bind, Option.bind_some, signed,
      Bool.false_eq_true, if_false]
    cases toInt64? (valueOf 10 digits) <;> rfl
  · exact not_based_digits hne hzero (by decide)
  · exact not_based_digits hne hzero (by decide)
  · exact not_based_digits hne hzero (by decide)

theorem readNumeric_digits (rest : List Char) :
    readNumeric (digits ++ '\n' :: rest) =
      (toInt64? (valueOf 10 digits)).map fun value => (.integer value, '\n' :: rest) := by
  unfold readNumeric
  rw [readMoment_digits h, readDecimal_digits h hne hzero, readSpecial_digits h hne, readInteger_digits h hne hzero]
  cases toInt64? (valueOf 10 digits) <;> rfl

end Whole

/-- **A printed number is read back**, if it is in range. -/
theorem readNumeric_toDigits {n : Nat} (h : n < 2 ^ 63) (rest : List Char) :
    readNumeric (Nat.toDigits 10 n ++ '\n' :: rest) = some (.integer (Int64.ofNat n), '\n' :: rest) := by
  have hzero : (Nat.toDigits 10 n).head? = some '0' → Nat.toDigits 10 n = ['0'] := by
    intro hhead
    cases n with
    | zero => rfl
    | succ n => exact absurd hhead (head_toDigits (Nat.succ_pos n))
  rw [readNumeric_digits (digits_toDigits n) Nat.toDigits_ne_nil hzero, valueOf_toDigits]
  have hrange : Int64.minValue.toInt ≤ (n : Int) ∧ (n : Int) ≤ Int64.maxValue.toInt := by
    have hmin : Int64.minValue.toInt = -9223372036854775808 := by decide
    have hmax : Int64.maxValue.toInt = 9223372036854775807 := by decide
    omega
  rw [toInt64?, if_pos hrange]
  rfl

end BlockProbe.Toml
