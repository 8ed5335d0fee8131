/-
Unsigned numbers as they are typed.

A numeral is one or more ASCII digits with a plus sign in front of them or none. What is read is exactly the numerals
below the bound: digits only make a value larger, so folding that stays below it has lost nothing on the way, and
folding that leaves it is never to come back.

- `foldDigits_eq_ok`: what folding digits comes to.
- `readUnsigned_eq_ok`: a text is read as a number if and only if it is a numeral with that value.
-/
import BlockProbe.Decimal.Natural
import BlockProbe.Proofs.Results

namespace BlockProbe.Decimal

/-- one or more ASCII digits, of this value -/
structure AreDigits (digits : List Char) (n : Nat) : Prop where
  nonempty : digits ≠ []
  all : ∀ c ∈ digits, c.isDigit = true
  value : Nat.ofDigitChars 10 digits 0 = n

/-- an optional plus sign and one or more ASCII digits, of this value -/
def Numeral (text : String) (n : Nat) : Prop :=
  ∃ digits, AreDigits digits n ∧ (text.toList = digits ∨ text.toList = '+' :: digits)

variable {digits rest : List Char} {text : String} {c : Char}

/-! ## Digits -/

theorem digit?_of_isDigit (h : c.isDigit = true) : digit? c = some (c.toNat - '0'.toNat) := by
  have hrange : '0' ≤ c ∧ c ≤ '9' := by simpa [Char.isDigit, Char.le_def] using h
  unfold digit?
  rw [if_pos hrange]

theorem digit?_of_not_isDigit (h : ¬ c.isDigit = true) : digit? c = none := by
  have hrange : ¬ ('0' ≤ c ∧ c ≤ '9') := by simpa [Char.isDigit, Char.le_def] using h
  unfold digit?
  rw [if_neg hrange]

/-- more digits never make a value smaller -/
theorem le_ofDigitChars (digits : List Char) (value : Nat) : value ≤ Nat.ofDigitChars 10 digits value := by
  induction digits generalizing value with
  | nil => rw [Nat.ofDigitChars_nil]
  | cons c digits ih =>
    rw [Nat.ofDigitChars_cons]
    exact Nat.le_trans (by omega) (ih _)

/-- what folding digits comes to -/
theorem foldDigits_eq_ok {value n : Nat} (hvalue : value < unsignedBound) :
    foldDigits value digits = .ok n ↔
      (∀ c ∈ digits, c.isDigit = true) ∧ Nat.ofDigitChars 10 digits value = n ∧ n < unsignedBound := by
  induction digits generalizing value with
  | nil =>
    simp only [foldDigits, Except.ok.injEq, List.not_mem_nil, false_implies, implies_true, true_and,
      Nat.ofDigitChars_nil]
    exact ⟨fun heq => ⟨heq, heq ▸ hvalue⟩, And.left⟩
  | cons c digits ih =>
    rw [foldDigits, Nat.ofDigitChars_cons, List.forall_mem_cons]
    by_cases hc : c.isDigit = true
    · rw [digit?_of_isDigit hc, Nat.mul_comm]
      dsimp only
      split_ifs with hbelow
      · rw [ih hbelow]
        simp only [hc, true_and]
      · -- the value is past the bound, and stays so
        have hgrows := le_ofDigitChars digits (10 * value + (c.toNat - '0'.toNat))
        constructor
        · intro h
          cases h
        · rintro ⟨-, hn, hless⟩
          omega
    · rw [digit?_of_not_isDigit hc]
      simp only [reduceCtorEq, hc, Bool.false_eq_true, false_and]

/-! ## Numerals -/

theorem AreDigits.head_ne_plus {n : Nat} (h : AreDigits ('+' :: rest) n) : False := by
  have hplus := h.all '+' List.mem_cons_self
  exact absurd hplus (by decide)

theorem AreDigits.foldDigits {n : Nat} (h : AreDigits digits n) (hn : n < unsignedBound) :
    foldDigits 0 digits = .ok n :=
  (foldDigits_eq_ok (by decide)).2 ⟨h.all, h.value, hn⟩

theorem AreDigits.of_foldDigits {n : Nat} (hnonempty : digits ≠ []) (h : Decimal.foldDigits 0 digits = .ok n) :
    AreDigits digits n ∧ n < unsignedBound := by
  obtain ⟨hall, hvalue, hn⟩ := (foldDigits_eq_ok (by decide)).1 h
  exact ⟨⟨hnonempty, hall, hvalue⟩, hn⟩

/-- what a list of characters is read as -/
theorem readNatural_eq_ok {chars : List Char} {n : Nat} :
    readNatural chars = .ok n ↔
      n < unsignedBound ∧ ∃ digits, AreDigits digits n ∧ (chars = digits ∨ chars = '+' :: digits) := by
  constructor
  · intro h
    unfold readNatural at h
    split at h
    · cases h
    · cases h
    · rename_i digits hlone
      obtain ⟨hdigits, hn⟩ := AreDigits.of_foldDigits (fun hnil => hlone (hnil ▸ rfl)) h
      exact ⟨hn, digits, hdigits, .inr rfl⟩
    · rename_i hnonempty _ _
      obtain ⟨hdigits, hn⟩ := AreDigits.of_foldDigits hnonempty h
      exact ⟨hn, chars, hdigits, .inl rfl⟩
  · rintro ⟨hn, digits, hdigits, rfl | rfl⟩
    · have hfold := hdigits.foldDigits hn
      unfold readNatural
      split
      · exact (hdigits.nonempty rfl).elim
      · exact hdigits.head_ne_plus.elim
      · exact hdigits.head_ne_plus.elim
      · exact hfold
    · have hfold := hdigits.foldDigits hn
      unfold readNatural
      split
      · rename_i heq; cases heq
      · rename_i heq
        cases heq
        exact (hdigits.nonempty rfl).elim
      · rename_i heq
        cases heq
        exact hfold
      · rename_i hother
        exact (hother _ rfl).elim

/-- **What is read as an unsigned number**: the numerals of 64 bits, each as its value. -/
theorem readUnsigned_eq_ok {n : UInt64} : readUnsigned text = .ok n ↔ Numeral text n.toNat := by
  unfold readUnsigned Numeral
  rw [map_eq_ok]
  constructor
  · rintro ⟨value, hread, rfl⟩
    obtain ⟨hbelow, hnumeral⟩ := readNatural_eq_ok.1 hread
    rwa [UInt64.toNat_ofNat_of_lt' hbelow]
  · intro hnumeral
    exact ⟨n.toNat, readNatural_eq_ok.2 ⟨n.toNat_lt, hnumeral⟩, UInt64.ofNat_toNat⟩

/-- the decimal of a number is a numeral with its value -/
theorem numeral_toString (n : Nat) : Numeral (toString n) n := by
  refine ⟨Nat.toDigits 10 n, ⟨Nat.toDigits_ne_nil, fun c hc => ?_, Nat.ofDigitChars_ten_toDigits⟩, .inl ?_⟩
  · exact Nat.isDigit_of_mem_toDigits (by decide) (by decide) hc
  · rw [Nat.toString_eq_ofList_toDigits, String.toList_ofList]

/-- a text is the numeral of one number only -/
theorem Numeral.unique {n other : Nat} (h : Numeral text n) (hother : Numeral text other) : n = other := by
  obtain ⟨digits, hdigits, htext⟩ := h
  obtain ⟨others, hothers, hsame⟩ := hother
  have hequal : digits = others := by
    rcases htext with htext | htext <;> rcases hsame with hsame | hsame <;> have heq := htext.symm.trans hsame
    · exact heq
    · exact (heq ▸ hdigits).head_ne_plus.elim
    · exact (heq.symm ▸ hothers).head_ne_plus.elim
    · exact (List.cons.inj heq).2
  rw [← hdigits.value, ← hothers.value, hequal]

end BlockProbe.Decimal
