/-
What any bytes are shown as.

A character that is decoded is one whose encoding was read (`encodeChar_of_pieceAt`): no overlong form, no surrogate and
nothing that is cut short passes for a character. So bytes whose pieces are all characters encode those characters
(`eq_encode_of_pieces`), and everything else shows U+FFFD.

- `lossy_eq_iff`: a text without U+FFFD is shown for its own encoding and for nothing else.
- `replacement_mem_lossy`: what encodes no text shows U+FFFD.
-/
import BlockProbe.Proofs.Text.Utf8

namespace BlockProbe.Text

/-! ## One character -/

/-- the code points that are characters -/
theorem toNat_ofNat {n : Nat} (h : n < 0xD800 ∨ (0xDFFF < n ∧ n < 0x110000)) : (Char.ofNat n).toNat = n := by
  have hvalid : n.isValidChar := h
  rw [Char.ofNat, dif_pos hvalid]
  rfl

theorem isContinuation_iff {b : UInt8} : isContinuation b = true ↔ 0x80 ≤ b.toNat ∧ b.toNat ≤ 0xBF := by
  simp only [isContinuation, UInt8.le_iff_toNat_le, UInt8.reduceToNat, Bool.and_eq_true, decide_eq_true_eq]

/-- a byte is given by its number -/
theorem eq_ofNat {b : UInt8} {n : Nat} (h : b.toNat = n) : UInt8.ofNat n = b := by
  rw [← h, UInt8.ofNat_toNat]

theorem encodeChar_one {a : UInt8} (ha : a.toNat < 0x80) : String.utf8EncodeChar (Char.ofNat a.toNat) = [a] := by
  have hcode : (Char.ofNat a.toNat).toNat = a.toNat := toNat_ofNat (by omega)
  unfold String.utf8EncodeChar
  simp only [Char.toNat_val, hcode]
  rw [if_pos (by omega), UInt8.ofNat_toNat]

theorem encodeChar_two {a b : UInt8} (ha : 0xC2 ≤ a.toNat ∧ a.toNat ≤ 0xDF) (hb : isContinuation b = true) :
    String.utf8EncodeChar (Char.ofNat (a.toNat % 32 * 64 + low b)) = [a, b] := by
  rw [isContinuation_iff] at hb
  have hcode : (Char.ofNat (a.toNat % 32 * 64 + low b)).toNat = a.toNat % 32 * 64 + low b :=
    toNat_ofNat (by unfold low; omega)
  unfold String.utf8EncodeChar
  simp only [Char.toNat_val, hcode]
  unfold low
  rw [if_neg (by omega), if_pos (by omega), eq_ofNat (b := a) (by omega), eq_ofNat (b := b) (by omega)]

/-- what the second byte of three leaves to the code point -/
theorem secondOfThree_bounds {a b : UInt8} (hb : secondOfThree a b = true) :
    (0x80 ≤ b.toNat ∧ b.toNat ≤ 0xBF) ∧ (a.toNat = 0xE0 → 0xA0 ≤ b.toNat) ∧ (a.toNat = 0xED → b.toNat ≤ 0x9F) := by
  unfold secondOfThree at hb
  simp only [beq_iff_eq, ← UInt8.toNat_inj, UInt8.reduceToNat] at hb
  split_ifs at hb with h1 h2
  · simp only [UInt8.le_iff_toNat_le, UInt8.reduceToNat, Bool.and_eq_true, decide_eq_true_eq] at hb
    omega
  · simp only [UInt8.le_iff_toNat_le, UInt8.reduceToNat, Bool.and_eq_true, decide_eq_true_eq] at hb
    omega
  · rw [isContinuation_iff] at hb
    omega

theorem encodeChar_three {a b c : UInt8} (ha : 0xE0 ≤ a.toNat ∧ a.toNat ≤ 0xEF) (hb : secondOfThree a b = true)
    (hc : isContinuation c = true) :
    String.utf8EncodeChar (Char.ofNat (a.toNat % 16 * 4096 + low b * 64 + low c)) = [a, b, c] := by
  have hsecond := secondOfThree_bounds hb
  rw [isContinuation_iff] at hc
  have hcode : (Char.ofNat (a.toNat % 16 * 4096 + low b * 64 + low c)).toNat =
      a.toNat % 16 * 4096 + low b * 64 + low c := toNat_ofNat (by unfold low; omega)
  unfold String.utf8EncodeChar
  simp only [Char.toNat_val, hcode]
  unfold low
  rw [if_neg (by omega), if_neg (by omega), if_pos (by omega), eq_ofNat (b := a) (by omega),
    eq_ofNat (b := b) (by omega), eq_ofNat (b := c) (by omega)]

/-- what the second byte of four leaves to the code point -/
theorem secondOfFour_bounds {a b : UInt8} (hb : secondOfFour a b = true) :
    (0x80 ≤ b.toNat ∧ b.toNat ≤ 0xBF) ∧ (a.toNat = 0xF0 → 0x90 ≤ b.toNat) ∧ (a.toNat = 0xF4 → b.toNat ≤ 0x8F) := by
  unfold secondOfFour at hb
  simp only [beq_iff_eq, ← UInt8.toNat_inj, UInt8.reduceToNat] at hb
  split_ifs at hb with h1 h2
  · simp only [UInt8.le_iff_toNat_le, UInt8.reduceToNat, Bool.and_eq_true, decide_eq_true_eq] at hb
    omega
  · simp only [UInt8.le_iff_toNat_le, UInt8.reduceToNat, Bool.and_eq_true, decide_eq_true_eq] at hb
    omega
  · rw [isContinuation_iff] at hb
    omega

theorem encodeChar_four {a b c d : UInt8} (ha : 0xF0 ≤ a.toNat ∧ a.toNat ≤ 0xF4) (hb : secondOfFour a b = true)
    (hc : isContinuation c = true) (hd : isContinuation d = true) :
    String.utf8EncodeChar (Char.ofNat (a.toNat % 8 * 262144 + low b * 4096 + low c * 64 + low d)) = [a, b, c, d] := by
  have hsecond := secondOfFour_bounds hb
  rw [isContinuation_iff] at hc hd
  have hcode : (Char.ofNat (a.toNat % 8 * 262144 + low b * 4096 + low c * 64 + low d)).toNat =
      a.toNat % 8 * 262144 + low b * 4096 + low c * 64 + low d := toNat_ofNat (by unfold low; omega)
  unfold String.utf8EncodeChar
  simp only [Char.toNat_val, hcode]
  unfold low
  rw [if_neg (by omega), if_neg (by omega), if_neg (by omega), eq_ofNat (b := a) (by omega),
    eq_ofNat (b := b) (by omega), eq_ofNat (b := c) (by omega), eq_ofNat (b := d) (by omega)]

/-- **Only an encoded character is read as one.** The bytes that make up a character are its encoding. -/
theorem encodeChar_of_pieceAt {lead : UInt8} {rest : List UInt8} {c : Char} {taken : Nat}
    (h : pieceAt lead rest = (.scalar c, taken)) :
    ∃ tail more, rest = tail ++ more ∧ tail.length = taken ∧ String.utf8EncodeChar c = lead :: tail := by
  unfold pieceAt at h
  simp only [UInt8.lt_iff_toNat_lt, UInt8.le_iff_toNat_le, UInt8.reduceToNat, Bool.and_eq_true,
    decide_eq_true_eq] at h
  split_ifs at h with h1 h2 h3 h4
  · cases h
    exact ⟨[], rest, rfl, rfl, encodeChar_one h1⟩
  · cases rest with
    | nil => cases h
    | cons b more =>
      dsimp only at h
      split_ifs at h with hb
      · cases h
        exact ⟨[b], more, rfl, rfl, encodeChar_two h2 hb⟩
      · cases h
  · cases rest with
    | nil => cases h
    | cons b rest =>
      dsimp only at h
      split_ifs at h with hb
      · cases rest with
        | nil => cases h
        | cons c more =>
          dsimp only at h
          split_ifs at h with hc
          · cases h
            exact ⟨[b, c], more, rfl, rfl, encodeChar_three h3 hb hc⟩
          · cases h
      · cases h
  · cases rest with
    | nil => cases h
    | cons b rest =>
      dsimp only at h
      split_ifs at h with hb
      · cases rest with
        | nil => cases h
        | cons c rest =>
          dsimp only at h
          split_ifs at h with hc
          · cases rest with
            | nil => cases h
            | cons d more =>
              dsimp only at h
              split_ifs at h with hd
              · cases h
                exact ⟨[b, c, d], more, rfl, rfl, encodeChar_four h4 hb hc hd⟩
              · cases h
          · cases h
      · cases h
  · cases h

/-! ## Whole sequences -/

/-- the pieces behind the bytes that are skipped follow those so far -/
theorem piecesFrom_eq (skip : Nat) (sofar : List Piece) (bytes : List UInt8) :
    piecesFrom skip sofar bytes = sofar.reverse ++ pieces (bytes.drop skip) := by
  induction bytes generalizing skip sofar with
  | nil => simp [piecesFrom, pieces]
  | cons lead rest ih =>
    cases skip with
    | succ more => exact ih more sofar
    | zero =>
      calc piecesFrom 0 sofar (lead :: rest)
        _ = piecesFrom (pieceAt lead rest).2 ((pieceAt lead rest).1 :: sofar) rest := rfl
        _ = sofar.reverse ++ piecesFrom (pieceAt lead rest).2 [(pieceAt lead rest).1] rest := by
          rw [ih, ih]
          simp
        _ = sofar.reverse ++ pieces ((lead :: rest).drop 0) := rfl

/-- a sequence decodes to its first piece and to the pieces of what the first piece leaves -/
theorem pieces_cons (lead : UInt8) (rest : List UInt8) :
    pieces (lead :: rest) = (pieceAt lead rest).1 :: pieces (rest.drop (pieceAt lead rest).2) :=
  piecesFrom_eq (pieceAt lead rest).2 [(pieceAt lead rest).1] rest

/-- every piece takes a byte at least -/
theorem length_pieces_le (bytes : List UInt8) : (pieces bytes).length ≤ bytes.length := by
  have hfrom (skip : Nat) (sofar : List Piece) :
      (piecesFrom skip sofar bytes).length ≤ sofar.length + bytes.length := by
    induction bytes generalizing skip sofar with
    | nil => simp [piecesFrom]
    | cons lead rest ih =>
      cases skip with
      | succ more => exact Nat.le_trans (ih more sofar) (by simp)
      | zero => exact Nat.le_trans (ih _ _) (by simp; omega)
  exact Nat.le_trans (hfrom 0 []) (by simp)

/-- bytes whose pieces are all characters encode those characters -/
theorem eq_encode_of_pieces {bytes : List UInt8} {chars : List Char} (h : pieces bytes = chars.map Piece.scalar) :
    bytes = chars.flatMap String.utf8EncodeChar := by
  induction chars generalizing bytes with
  | nil =>
    cases bytes with
    | nil => rfl
    | cons lead rest => rw [pieces_cons] at h; cases h
  | cons c chars ih =>
    cases bytes with
    | nil => cases h
    | cons lead rest =>
      rw [pieces_cons, List.map_cons, List.cons.injEq] at h
      obtain ⟨hpiece, hmore⟩ := h
      have hread : pieceAt lead rest = (.scalar c, (pieceAt lead rest).2) := Prod.ext hpiece rfl
      obtain ⟨tail, more, rfl, hlength, hchar⟩ := encodeChar_of_pieceAt hread
      rw [← hlength, List.drop_left] at hmore
      rw [List.flatMap_cons, hchar, ← ih hmore, List.cons_append]

/-- a piece that is not shown as U+FFFD is the character it is shown as -/
theorem Piece.eq_scalar {piece : Piece} (h : piece.shown ≠ replacement) : piece = .scalar piece.shown := by
  cases piece with
  | scalar c => rfl
  | broken => exact (h rfl).elim

theorem lossy_encode (text : String) : lossy (encode text) = text := by
  rw [lossy, pieces_encode, List.map_map]
  show String.ofList (text.toList.map id) = text
  rw [List.map_id, String.ofList_toList]

/-- **A text without U+FFFD is shown for its own encoding alone.** -/
theorem lossy_eq_iff {bytes : List UInt8} {text : String} (h : replacement ∉ text.toList) :
    lossy bytes = text ↔ bytes = encode text := by
  constructor
  · rintro rfl
    rw [lossy, String.toList_ofList] at h
    rw [lossy, encode, String.toList_ofList]
    refine eq_encode_of_pieces ?_
    rw [List.map_map]
    refine (List.map_id' (pieces bytes)).symm.trans (List.map_congr_left fun piece hpiece => ?_)
    exact Piece.eq_scalar fun hshown => h (List.mem_map.2 ⟨piece, hpiece, hshown⟩)
  · rintro rfl
    exact lossy_encode text

/-- **What encodes no text shows U+FFFD.** -/
theorem replacement_mem_lossy {bytes : List UInt8} (h : ∀ text, bytes ≠ encode text) :
    replacement ∈ (lossy bytes).toList := by
  by_contra hnone
  exact h (lossy bytes) ((lossy_eq_iff hnone).1 rfl)

theorem length_lossy_le (bytes : List UInt8) : (lossy bytes).toList.length ≤ bytes.length := by
  rw [lossy, String.toList_ofList, List.length_map]
  exact length_pieces_le bytes

end BlockProbe.Text
