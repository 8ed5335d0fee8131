/-
White space around a value.

`whiteSpace` lists the characters that count, and `Strips` says what is left of a text without them at its ends: a part
of the text with nothing but white space in front of it and behind it, which neither begins nor ends with any itself.

- `isSpace_iff`: no other characters count.
- `trimmed_iff`: trimming leaves the one part that there is.
-/
import BlockProbe.Text.Blank
import Mathlib.Data.List.DropRight

namespace BlockProbe.Text

/-- the code points with the Unicode property White_Space -/
def whiteSpace : List Nat := [
  0x9, 0xA, 0xB, 0xC, 0xD, 0x20, 0x85, 0xA0, 0x1680, 0x2000, 0x2001, 0x2002, 0x2003, 0x2004, 0x2005, 0x2006, 0x2007,
  0x2008, 0x2009, 0x200A, 0x2028, 0x2029, 0x202F, 0x205F, 0x3000]

theorem isSpace_iff {c : Char} : isSpace c = true ↔ c.toNat ∈ whiteSpace := by
  simp only [isSpace, whiteSpace, List.mem_cons, List.not_mem_nil, or_false, Bool.or_eq_true, Bool.and_eq_true,
    decide_eq_true_eq, beq_iff_eq]
  omega

/-- `inner` is what is left of the text without the white space at either end -/
structure Strips (text inner : String) : Prop where
  around : ∃ before after, text.toList = before ++ inner.toList ++ after ∧
    (∀ c ∈ before, c.toNat ∈ whiteSpace) ∧ ∀ c ∈ after, c.toNat ∈ whiteSpace
  first : ∀ c, inner.toList.head? = some c → c.toNat ∉ whiteSpace
  last : ∀ c, inner.toList.getLast? = some c → c.toNat ∉ whiteSpace

variable {text inner : String}

theorem trimmed_toList (text : String) :
    (trimmed text).toList = (text.toList.dropWhile isSpace).rdropWhile isSpace := by
  unfold trimmed
  rw [String.toList_ofList]
  rfl

/-- a character that dropping stops at is not one to be dropped -/
theorem not_isSpace_of_head {chars : List Char} {c : Char} (h : (chars.dropWhile isSpace).head? = some c) :
    isSpace c = false := by
  have hstop := List.head?_dropWhile_not isSpace chars
  rwa [h] at hstop

theorem getLast?_of_rdropWhile {chars : List Char} {c : Char} (h : (chars.rdropWhile isSpace).getLast? = some c) :
    isSpace c = false := by
  unfold List.rdropWhile at h
  rw [List.getLast?_reverse] at h
  exact not_isSpace_of_head h

/-- dropping from the end leaves the beginning -/
theorem head?_of_rdropWhile {chars : List Char} {c : Char} (h : (chars.rdropWhile isSpace).head? = some c) :
    chars.head? = some c := by
  obtain ⟨dropped, hdropped⟩ := List.rdropWhile_prefix isSpace chars
  rw [← hdropped, List.head?_append, h]
  rfl

/-- trimming leaves a part of the text with white space around it only -/
theorem strips_trimmed (text : String) : Strips text (trimmed text) where
  around := by
    have hfront : text.toList.takeWhile isSpace ++ text.toList.dropWhile isSpace = text.toList :=
      List.takeWhile_append_dropWhile
    have hback := List.takeWhile_append_dropWhile (p := isSpace) (l := (text.toList.dropWhile isSpace).reverse)
    refine ⟨text.toList.takeWhile isSpace, ((text.toList.dropWhile isSpace).reverse.takeWhile isSpace).reverse,
      ?_, fun c hc => isSpace_iff.1 (List.mem_takeWhile_imp hc),
      fun c hc => isSpace_iff.1 (List.mem_takeWhile_imp (List.mem_reverse.1 hc))⟩
    rw [trimmed_toList, List.append_assoc, List.rdropWhile, ← List.reverse_append, hback, List.reverse_reverse, hfront]
  first := by
    intro c hc
    rw [trimmed_toList] at hc
    have hnot := not_isSpace_of_head (head?_of_rdropWhile hc)
    rw [← isSpace_iff, hnot]
    exact Bool.false_ne_true
  last := by
    intro c hc
    rw [trimmed_toList] at hc
    rw [← isSpace_iff, getLast?_of_rdropWhile hc]
    exact Bool.false_ne_true

/-- a list that dropping leaves as it is -/
theorem dropWhile_of_head {chars : List Char} (h : ∀ c, chars.head? = some c → c.toNat ∉ whiteSpace) :
    chars.dropWhile isSpace = chars := by
  cases chars with
  | nil => rfl
  | cons c rest => exact List.dropWhile_cons_of_neg fun hspace => h c rfl (isSpace_iff.1 hspace)

/-- **Trimming** leaves what stripping says, and nothing else. -/
theorem trimmed_iff : trimmed text = inner ↔ Strips text inner := by
  constructor
  · rintro rfl
    exact strips_trimmed text
  · rintro ⟨⟨before, after, htext, hbefore, hafter⟩, hfirst, hlast⟩
    refine String.toList_injective ?_
    have hback : (inner.toList ++ after).rdropWhile isSpace = inner.toList := by
      unfold List.rdropWhile
      rw [List.reverse_append, List.dropWhile_append_of_pos fun c hc =>
          isSpace_iff.2 (hafter c (List.mem_reverse.1 hc)), dropWhile_of_head, List.reverse_reverse]
      intro c hc
      rw [List.head?_reverse] at hc
      exact hlast c hc
    rw [trimmed_toList, htext, List.append_assoc,
      List.dropWhile_append_of_pos fun c hc => isSpace_iff.2 (hbefore c hc)]
    -- an empty part leaves the white space behind it to be dropped from the front
    cases hinner : inner.toList with
    | nil =>
      rw [List.nil_append, List.dropWhile_eq_nil_iff.2 fun c hc => isSpace_iff.2 (hafter c hc)]
      rfl
    | cons c rest =>
      rw [← hinner, dropWhile_of_head, hback]
      intro first hc
      rw [hinner, List.cons_append] at hc
      exact hfirst first (by rw [hinner]; exact hc)

theorem Strips.unique {other : String} (h : Strips text inner) (hother : Strips text other) : inner = other :=
  (trimmed_iff.2 h).symm.trans (trimmed_iff.2 hother)

/-- a text without white space is left as it is -/
theorem strips_self (h : ∀ c ∈ text.toList, c.toNat ∉ whiteSpace) : Strips text text where
  around := ⟨[], [], by simp, by simp, by simp⟩
  first c hc := h c (List.mem_of_mem_head? hc)
  last c hc := h c (List.mem_of_mem_getLast? hc)

end BlockProbe.Text
