/-
Encoded text reads back.

A character's bytes are one piece, whatever follows them (`pieceAt_encodeChar`), so the pieces of an encoded text are
its characters (`pieces_encode`) and decoding returns the text (`decode?_encode`). The four cases are the four lengths
a character can have; in the longer ones the second byte keeps clear of overlong forms and surrogates because the
code point does.
-/
import BlockProbe.Text.Utf8
import Mathlib.Tactic.Common

namespace BlockProbe.Text

/-- a character is no surrogate and not above the last code point -/
theorem toNat_ranges (c : Char) : c.toNat < 0xD800 ∨ (0xDFFF < c.toNat ∧ c.toNat < 0x110000) := c.valid

theorem toNat_continuation (n : Nat) : (UInt8.ofNat (n % 64 + 0x80)).toNat = n % 64 + 0x80 := by
  rw [UInt8.toNat_ofNat']; omega

theorem isContinuation_continuation (n : Nat) : isContinuation (UInt8.ofNat (n % 64 + 0x80)) = true := by
  simp only [isContinuation, UInt8.le_iff_toNat_le, toNat_continuation, UInt8.reduceToNat, Bool.and_eq_true,
    decide_eq_true_eq]
  omega

theorem low_continuation (n : Nat) : low (UInt8.ofNat (n % 64 + 0x80)) = n % 64 := by
  rw [low, toNat_continuation]; omega

/-! ## One character -/

theorem pieceAt_one {c : Char} (h : c.toNat ≤ 0x7F) (rest : List UInt8) :
    pieceAt (UInt8.ofNat c.toNat) rest = (.scalar c, 0) := by
  have hlead : (UInt8.ofNat c.toNat).toNat = c.toNat := by rw [UInt8.toNat_ofNat']; omega
  unfold pieceAt
  simp only [UInt8.lt_iff_toNat_lt, UInt8.reduceToNat, hlead]
  rw [if_pos (by omega), Char.ofNat_toNat]

theorem pieceAt_two {c : Char} (h : 0x7F < c.toNat) (h' : c.toNat ≤ 0x7FF) (rest : List UInt8) :
    pieceAt (UInt8.ofNat (c.toNat / 64 % 32 + 0xC0)) (UInt8.ofNat (c.toNat % 64 + 0x80) :: rest) =
      (.scalar c, 1) := by
  have hlead : (UInt8.ofNat (c.toNat / 64 % 32 + 0xC0)).toNat = c.toNat / 64 + 0xC0 := by
    rw [UInt8.toNat_ofNat']; omega
  have hcode : (c.toNat / 64 + 0xC0) % 32 * 64 + c.toNat % 64 = c.toNat := by omega
  unfold pieceAt
  simp only [UInt8.lt_iff_toNat_lt, UInt8.le_iff_toNat_le, UInt8.reduceToNat, hlead, isContinuation_continuation,
    low_continuation, Bool.and_eq_true, decide_eq_true_eq, if_true, hcode, Char.ofNat_toNat]
  rw [if_neg (by omega), if_pos (by omega)]

/-- the second byte of three is in the range its lead byte asks for -/
theorem secondOfThree_encode {c : Char} (h : 0x7FF < c.toNat) (h' : c.toNat ≤ 0xFFFF) :
    secondOfThree (UInt8.ofNat (c.toNat / 4096 % 16 + 0xE0)) (UInt8.ofNat (c.toNat / 64 % 64 + 0x80)) = true := by
  have hrange := toNat_ranges c
  have hlead : (UInt8.ofNat (c.toNat / 4096 % 16 + 0xE0)).toNat = c.toNat / 4096 + 0xE0 := by
    rw [UInt8.toNat_ofNat']; omega
  unfold secondOfThree
  simp only [isContinuation_continuation, beq_iff_eq, ← UInt8.toNat_inj, UInt8.le_iff_toNat_le, hlead,
    toNat_continuation, UInt8.reduceToNat]
  split_ifs with h1 h2
  · simp only [Bool.and_eq_true, decide_eq_true_eq]; omega
  · simp only [Bool.and_eq_true, decide_eq_true_eq]; omega
  · rfl

theorem pieceAt_three {c : Char} (h : 0x7FF < c.toNat) (h' : c.toNat ≤ 0xFFFF) (rest : List UInt8) :
    pieceAt (UInt8.ofNat (c.toNat / 4096 % 16 + 0xE0))
      (UInt8.ofNat (c.toNat / 64 % 64 + 0x80) :: UInt8.ofNat (c.toNat % 64 + 0x80) :: rest) = (.scalar c, 2) := by
  have hlead : (UInt8.ofNat (c.toNat / 4096 % 16 + 0xE0)).toNat = c.toNat / 4096 + 0xE0 := by
    rw [UInt8.toNat_ofNat']; omega
  have hcode : (c.toNat / 4096 + 0xE0) % 16 * 4096 + c.toNat / 64 % 64 * 64 + c.toNat % 64 = c.toNat := by omega
  unfold pieceAt
  simp only [UInt8.lt_iff_toNat_lt, UInt8.le_iff_toNat_le, UInt8.reduceToNat, hlead, secondOfThree_encode h h',
    isContinuation_continuation, low_continuation, Bool.and_eq_true, decide_eq_true_eq, if_true, hcode,
    Char.ofNat_toNat]
  rw [if_neg (by omega), if_neg (by omega), if_pos (by omega)]

/-- the second byte of four is in the range its lead byte asks for -/
theorem secondOfFour_encode {c : Char} (h : 0xFFFF < c.toNat) :
    secondOfFour (UInt8.ofNat (c.toNat / 262144 % 8 + 0xF0)) (UInt8.ofNat (c.toNat / 4096 % 64 + 0x80)) = true := by
  have hrange := toNat_ranges c
  have hlead : (UInt8.ofNat (c.toNat / 262144 % 8 + 0xF0)).toNat = c.toNat / 262144 + 0xF0 := by
    rw [UInt8.toNat_ofNat']; omega
  unfold secondOfFour
  simp only [isContinuation_continuation, beq_iff_eq, ← UInt8.toNat_inj, UInt8.le_iff_toNat_le, hlead,
    toNat_continuation, UInt8.reduceToNat]
  split_ifs with h1 h2
  · simp only [Bool.and_eq_true, decide_eq_true_eq]; omega
  · simp only [Bool.and_eq_true, decide_eq_true_eq]; omega
  · rfl

theorem pieceAt_four {c : Char} (h : 0xFFFF < c.toNat) (rest : List UInt8) :
    pieceAt (UInt8.ofNat (c.toNat / 262144 % 8 + 0xF0))
      (UInt8.ofNat (c.toNat / 4096 % 64 + 0x80) :: UInt8.ofNat (c.toNat / 64 % 64 + 0x80) ::
        UInt8.ofNat (c.toNat % 64 + 0x80) :: rest) = (.scalar c, 3) := by
  have hrange := toNat_ranges c
  have hlead : (UInt8.ofNat (c.toNat / 262144 % 8 + 0xF0)).toNat = c.toNat / 262144 + 0xF0 := by
    rw [UInt8.toNat_ofNat']; omega
  have hcode : (c.toNat / 262144 + 0xF0) % 8 * 262144 + c.toNat / 4096 % 64 * 4096 + c.toNat / 64 % 64 * 64 +
      c.toNat % 64 = c.toNat := by omega
  unfold pieceAt
  simp only [UInt8.lt_iff_toNat_lt, UInt8.le_iff_toNat_le, UInt8.reduceToNat, hlead, secondOfFour_encode h,
    isContinuation_continuation, low_continuation, Bool.and_eq_true, decide_eq_true_eq, if_true, hcode,
    Char.ofNat_toNat]
  rw [if_neg (by omega), if_neg (by omega), if_neg (by omega), if_pos (by omega)]

/-- **A character is one piece.** Its bytes are read as the character, and none of the bytes after them is used. -/
theorem pieceAt_encodeChar (c : Char) : ∃ lead tail, String.utf8EncodeChar c = lead :: tail ∧
    ∀ rest, pieceAt lead (tail ++ rest) = (.scalar c, tail.length) := by
  unfold String.utf8EncodeChar
  simp only [show c.val.toNat = c.toNat from rfl]
  split_ifs with h1 h2 h3
  · exact ⟨_, _, rfl, fun rest => pieceAt_one h1 rest⟩
  · exact ⟨_, _, rfl, fun rest => pieceAt_two (by omega) h2 rest⟩
  · exact ⟨_, _, rfl, fun rest => pieceAt_three (by omega) h3 rest⟩
  · exact ⟨_, _, rfl, fun rest => pieceAt_four (by omega) rest⟩

/-! ## Whole texts -/

theorem piecesFrom_skip (sofar : List Piece) (skipped rest : List UInt8) :
    piecesFrom skipped.length sofar (skipped ++ rest) = piecesFrom 0 sofar rest := by
  induction skipped with
  | nil => rfl
  | cons byte skipped ih => rw [List.length_cons, List.cons_append, piecesFrom]; exact ih

theorem piecesFrom_encodeChar (sofar : List Piece) (c : Char) (rest : List UInt8) :
    piecesFrom 0 sofar (String.utf8EncodeChar c ++ rest) = piecesFrom 0 (.scalar c :: sofar) rest := by
  obtain ⟨lead, tail, hchar, hpiece⟩ := pieceAt_encodeChar c
  rw [hchar, List.cons_append, piecesFrom, hpiece rest]
  exact piecesFrom_skip _ tail rest

theorem piecesFrom_encode (sofar : List Piece) (chars : List Char) :
    piecesFrom 0 sofar (chars.flatMap String.utf8EncodeChar) = sofar.reverse ++ chars.map Piece.scalar := by
  induction chars generalizing sofar with
  | nil => simp [piecesFrom]
  | cons c chars ih => rw [List.flatMap_cons, piecesFrom_encodeChar, ih]; simp

/-- **The pieces of an encoded text are its characters.** -/
theorem pieces_encode (text : String) : pieces (encode text) = text.toList.map Piece.scalar :=
  piecesFrom_encode [] text.toList

/-- **Encoded text reads back.** -/
theorem decode?_encode (text : String) : decode? (encode text) = some text := by
  have hchars (chars : List Char) : (chars.map Piece.scalar).mapM Piece.char? = some chars := by
    induction chars with
    | nil => rfl
    | cons c chars ih => rw [List.map_cons, List.mapM_cons, ih]; rfl
  rw [decode?, pieces_encode, hchars, Option.map_some, String.ofList_toList]

end BlockProbe.Text
