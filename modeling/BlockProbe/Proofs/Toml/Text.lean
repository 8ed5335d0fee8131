/-
Quoted text as it is read back.

Text is written piece by piece, each piece spelling one character: the character itself, or an escape of it. A piece is
good where reading it takes the one character and nothing else. Quotes need more care inside a block, where up to two
may stand for themselves and three close it; `BlockSpelling` counts them.

- `lineBody_escape`, `blockBody_escape`: an escape is a good piece.
- `lineBody_plain`, `blockBody_plain`: so is a character that may stand for itself.
- `BlockSpelling.read`: a block spelled out of good pieces, with at most two quotes in a row, is read back.
-/
import BlockProbe.Proofs.Results
import BlockProbe.Toml.Text

namespace BlockProbe.Toml

/-- what may follow a backslash in the middle of a line is no line end -/
theorem lineEnd?_of_escape {text : List Char} {meant : Char × Nat} (h : escapeAt? text = some meant) :
    lineEnd? (skipBlanks text) = none := by
  cases text with
  | nil => rfl
  | cons c rest =>
    by_cases hspace : c = ' '
    · subst hspace; cases h
    by_cases htab : c = '\t'
    · subst htab; cases h
    have hskip : skipBlanks (c :: rest) = c :: rest := by simp [skipBlanks, isBlank, hspace, htab]
    rw [hskip]
    by_cases hlf : c = '\n'
    · subst hlf; cases h
    by_cases hcr : c = '\r'
    · subst hcr; cases h
    simp [lineEnd?, hlf, hcr]

/-! ## Lines -/

theorem lineBody_skip (quote : Char) (escape : List Char) (taken more : List Char) :
    lineBody quote escape.length taken (escape ++ more) = lineBody quote 0 taken more := by
  induction escape with
  | nil => rfl
  | cons c escape ih =>
    rw [List.length_cons, List.cons_append, lineBody]
    exact ih

/-- an escape is read as the character it means -/
theorem lineBody_escape {escape more : List Char} {meant : Char}
    (h : escapeAt? (escape ++ more) = some (meant, escape.length)) (taken : List Char) :
    lineBody doubleQuote 0 taken ('\\' :: escape ++ more) = lineBody doubleQuote 0 (meant :: taken) more := by
  have hquote : '\\' ≠ doubleQuote := by decide
  rw [List.cons_append, lineBody]
  simp only [if_neg hquote, true_and, if_true, h]
  exact lineBody_skip doubleQuote escape (meant :: taken) more

/-- a plain character is read as itself -/
theorem lineBody_plain {quote c : Char} (hquote : c ≠ quote) (hplain : isPlain c = true)
    (hescape : c = '\\' → quote ≠ doubleQuote) (taken more : List Char) :
    lineBody quote 0 taken (c :: more) = lineBody quote 0 (c :: taken) more := by
  rw [lineBody]
  simp only [if_neg hquote, if_pos hplain]
  rw [if_neg]
  rintro ⟨hc, hq⟩
  exact hescape hc hq

/-- the quote ends the line's text -/
theorem lineBody_quote (quote : Char) (taken rest : List Char) :
    lineBody quote 0 taken (quote :: rest) = some (String.ofList taken.reverse, rest) := by
  rw [lineBody]
  simp only [if_true]

/-! ## Blocks -/

/-- behind an escape the block goes on as plain text -/
theorem blockBody_skipped (quote : Char) (taken text : List Char) :
    blockBody quote (.skipping 0) taken text = blockBody quote .plain taken text := by
  induction text generalizing taken with
  | nil => rfl
  | cons c rest ih =>
    simp only [blockBody, ih]
    rfl

theorem blockBody_skip (quote : Char) (escape : List Char) (taken more : List Char) :
    blockBody quote (.skipping escape.length) taken (escape ++ more) = blockBody quote .plain taken more := by
  induction escape with
  | nil => exact blockBody_skipped quote taken more
  | cons c escape ih =>
    rw [List.length_cons, List.cons_append, blockBody]
    exact ih

/-- an escape is read as the character it means -/
theorem blockBody_escape {escape more : List Char} {meant : Char}
    (h : escapeAt? (escape ++ more) = some (meant, escape.length)) (taken : List Char) :
    blockBody doubleQuote .plain taken ('\\' :: escape ++ more) =
      blockBody doubleQuote .plain (meant :: taken) more := by
  have hquote : '\\' ≠ doubleQuote := by decide
  have hstate : (BlockState.plain == BlockState.swallowing) = false := rfl
  rw [List.cons_append, blockBody]
  · simp only [hstate, lineEnd?_of_escape h, h, if_neg hquote]
    simp
    exact blockBody_skip doubleQuote escape (meant :: taken) more
  · intro more h; cases h

/-- a plain character is read as itself -/
theorem blockBody_plain {quote c : Char} (hquote : c ≠ quote) (hplain : isPlain c = true)
    (hescape : c = '\\' → quote ≠ doubleQuote) (taken more : List Char) :
    blockBody quote .plain taken (c :: more) = blockBody quote .plain (c :: taken) more := by
  have hlf : c ≠ '\n' := by rintro rfl; cases hplain
  have hcr : c ≠ '\r' := by rintro rfl; cases hplain
  have hnot : ¬ (c = '\\' ∧ quote = doubleQuote) := fun h => hescape h.1 h.2
  have hstate : (BlockState.plain == BlockState.swallowing) = false := rfl
  rw [blockBody]
  · simp [hstate, hlf, hcr, hquote, hnot, hplain]
  · intro more h; cases h

/-- a line end is read as itself -/
theorem blockBody_line (quote : Char) (taken more : List Char) :
    blockBody quote .plain taken ('\n' :: more) = blockBody quote .plain ('\n' :: taken) more := rfl

/-- fewer than three quotes stand for themselves -/
theorem blockBody_quote {quote : Char} (hlf : quote ≠ '\n') (hcr : quote ≠ '\r') {more : List Char}
    (h : (more.takeWhile (· == quote)).length < 2) (taken : List Char) :
    blockBody quote .plain taken (quote :: more) = blockBody quote .plain (quote :: taken) more := by
  have hstate : (BlockState.plain == BlockState.swallowing) = false := rfl
  have hrun : 1 + (more.takeWhile (· == quote)).length < 3 := by omega
  rw [blockBody]
  · simp [hstate, hlf, hcr, hrun]
  · intro more h; cases h

/-- three quotes close the block, and up to two before them belong to it -/
theorem blockBody_close {quote : Char} (hlf : quote ≠ '\n') (hcr : quote ≠ '\r') {count : Nat} (hcount : count ≤ 2)
    (taken rest : List Char) (hrest : rest.head? ≠ some quote) :
    blockBody quote .plain taken (List.replicate count quote ++ List.replicate 3 quote ++ rest) =
      some (String.ofList (taken.reverse ++ List.replicate count quote), rest) := by
  have hstate : (BlockState.plain == BlockState.swallowing) = false := rfl
  have hopen : List.replicate count quote ++ List.replicate 3 quote ++ rest =
      quote :: (List.replicate (count + 2) quote ++ rest) := by
    rw [← List.replicate_add]
    rfl
  have hstop : rest.takeWhile (· == quote) = [] := by
    cases rest with
    | nil => rfl
    | cons c rest =>
      have hc : c ≠ quote := fun heq => hrest (by rw [heq]; rfl)
      simp [hc]
  have hahead : ((List.replicate (count + 2) quote ++ rest).takeWhile (· == quote)).length = count + 2 := by
    rw [List.takeWhile_append_of_pos (by simp), hstop]
    simp
  have hrun : ¬ 1 + (count + 2) < 3 := by omega
  have hextra : min (1 + (count + 2) - 3) 2 = count := by omega
  have hleft : (List.replicate (count + 2) quote ++ rest).drop (2 + count) = rest := by
    rw [Nat.add_comm 2 count, List.drop_left' (List.length_replicate)]
  rw [hopen, blockBody]
  · simp only [hstate, hlf, hcr, hahead, hrun, hextra, hleft]
    simp
  · intro more h; cases h

/-- The inside of a block and the text it spells, `run` quotes standing right before them. Up to two quotes in a row
stand for themselves; everything else is spelled by pieces that begin otherwise. -/
inductive BlockSpelling (quote : Char) : Nat → List Char → List Char → Prop
  | nil (run : Nat) : BlockSpelling quote run [] []
  | quote {run : Nat} {inner text : List Char} (hrun : run < 2) (rest : BlockSpelling quote (run + 1) inner text) :
    BlockSpelling quote run (quote :: inner) (quote :: text)
  | piece {run : Nat} {first c : Char} {piece inner text : List Char} (hfirst : first ≠ quote)
    (hread : ∀ taken more, blockBody quote .plain taken (first :: piece ++ more) =
      blockBody quote .plain (c :: taken) more)
    (rest : BlockSpelling quote 0 inner text) : BlockSpelling quote run (first :: piece ++ inner) (c :: text)

namespace BlockSpelling

variable {quote : Char} {run : Nat} {inner text : List Char}

/-- the quotes in front are few: they are all there is, or something else comes behind them -/
theorem leading (h : BlockSpelling quote run inner text) (hrun : run ≤ 2) :
    (∃ count, run + count ≤ 2 ∧ inner = List.replicate count quote ∧ text = List.replicate count quote) ∨
    (∃ count first more, run + count ≤ 2 ∧ first ≠ quote ∧ inner = List.replicate count quote ++ first :: more) := by
  induction h with
  | nil run => exact .inl ⟨0, hrun, rfl, rfl⟩
  | quote hless _ ih =>
    rcases ih (by omega) with ⟨count, hcount, hinner, htext⟩ | ⟨count, first, more, hcount, hfirst, hinner⟩
    · exact .inl ⟨count + 1, by omega, by rw [hinner]; rfl, by rw [htext]; rfl⟩
    · exact .inr ⟨count + 1, first, more, by omega, hfirst, by rw [hinner]; rfl⟩
  | piece hfirst _ _ _ => exact .inr ⟨0, _, _, hrun, hfirst, rfl⟩

/-- **A spelled block is read back.** -/
theorem read (h : BlockSpelling quote run inner text) (hlf : quote ≠ '\n') (hcr : quote ≠ '\r') (taken : List Char)
    {rest : List Char} (hrest : rest.head? ≠ some quote) :
    blockBody quote .plain taken (inner ++ List.replicate 3 quote ++ rest) =
      some (String.ofList (taken.reverse ++ text), rest) := by
  induction h generalizing taken with
  | nil run => exact blockBody_close hlf hcr (Nat.zero_le 2) taken rest hrest
  | quote hless hspelled ih =>
    rcases hspelled.leading (by omega) with ⟨count, hcount, rfl, rfl⟩ | ⟨count, first, more, hcount, hfirst, rfl⟩
    · exact @blockBody_close quote hlf hcr (count + 1) (by omega) taken rest hrest
    · have hahead : ((List.replicate count quote ++ first :: more ++ List.replicate 3 quote ++ rest).takeWhile
          (· == quote)).length < 2 := by
        rw [List.append_assoc, List.append_assoc, List.takeWhile_append_of_pos (by simp)]
        simp [hfirst]
        omega
      have hread := ih (quote :: taken)
      simp only [List.cons_append, List.append_assoc] at hread hahead ⊢
      rw [blockBody_quote hlf hcr hahead, hread]
      simp
  | piece hfirst hread _ ih =>
    simp only [List.append_assoc] at hread ih ⊢
    rw [hread, ih]
    simp

end BlockSpelling

/-! ## Quoted text -/

/-- the two quotes -/
def IsQuote (quote : Char) : Prop := quote = doubleQuote ∨ quote = singleQuote

/-- text that begins with one quote, its inside beginning otherwise, is a line -/
theorem readText_line {quote : Char} (hquote : IsQuote quote) {inner rest : List Char}
    (hinner : inner.head? ≠ some quote) (hrest : rest.head? ≠ some quote) :
    readText (quote :: (inner ++ quote :: rest)) = lineBody quote 0 [] (inner ++ quote :: rest) := by
  have hthird : ∀ more, inner ++ quote :: rest ≠ quote :: quote :: more := by
    intro more heq
    cases inner with
    | nil =>
      rw [List.nil_append] at heq
      exact hrest (by rw [(List.cons.inj heq).2]; rfl)
    | cons c inner => exact hinner (by rw [List.head?_cons, (List.cons.inj heq).1])
  rcases hquote with rfl | rfl
  · rw [readText]
    · rfl
    · intro more heq; exact hthird more (List.cons.inj heq).2
    · intro more heq; cases heq
  · rw [readText]
    · rfl
    · intro more heq; cases heq
    · intro more heq; exact hthird more (List.cons.inj heq).2

/-- text that begins with three quotes is a block -/
theorem readText_block {quote : Char} (hquote : IsQuote quote) (inner : List Char) :
    readText (List.replicate 3 quote ++ inner) = readBlock quote inner := by
  rcases hquote with rfl | rfl <;> rfl

/-- a block of one line is read as it stands -/
theorem readBlock_plain {quote : Char} {inner : List Char} (h : lineEnd? inner = none) :
    readBlock quote inner = blockBody quote .plain [] inner := by
  rw [readBlock, h]
  rfl

end BlockProbe.Toml
