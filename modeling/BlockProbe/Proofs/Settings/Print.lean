/-
Printed settings as they are read back.

Every form of text is looked at alone: what it is chosen for (`textForm_literalLine`, `textForm_literalBlock`) and that
it is read back. Text between double quotes can be anything, since what it cannot hold is escaped.

- `readText_printedText`: text of any form is read back.
-/
import BlockProbe.Proofs.Toml.Number
import BlockProbe.Proofs.Toml.Text
import BlockProbe.Settings.Print

namespace BlockProbe.Settings

open BlockProbe.Toml

/-! ## Single characters -/

/-- a character that needs no escape and ends no line may stand for itself -/
theorem isPlain_of_needsEscape {c : Char} (h : needsEscape c = false) (hlf : c ≠ '\n') : isPlain c = true := by
  by_cases htab : c = '\t'
  · subst htab; rfl
  have hbounds : ¬ c.toNat < 0x20 ∧ c.toNat ≠ 0x7F := by
    simpa [needsEscape, htab, hlf] using h
  by_cases hascii : c.toNat < 0x80
  · have hlow : ' ' ≤ c := by
      show ' '.toNat ≤ c.toNat
      have hspace : ' '.toNat = 0x20 := rfl
      omega
    have hhigh : c ≤ '~' := by
      show c.toNat ≤ '~'.toNat
      have htilde : '~'.toNat = 0x7E := rfl
      omega
    simp [isPlain, hlow, hhigh]
  · have hhigh : 0x80 ≤ c.toNat := by omega
    simp [isPlain, hhigh]

/-- a plain character ends no line -/
theorem lineEnd?_of_isPlain {c : Char} (h : isPlain c = true) (rest : List Char) : lineEnd? (c :: rest) = none := by
  have hlf : c ≠ '\n' := by rintro rfl; cases h
  have hcr : c ≠ '\r' := by rintro rfl; cases h
  simp [lineEnd?, hlf, hcr]

theorem codePoint?_unicodeEscape : ∀ code < 128,
    codePoint? 4 ((unicodeEscape code).drop 2) = some (Char.ofNat code) := by
  decide +kernel

/-- the four digits of an escape are read as the character they are made from -/
theorem escapeAt?_unicodeEscape {c : Char} (h : needsEscape c = true) (more : List Char) :
    escapeAt? ((unicodeEscape c.toNat).tail ++ more) = some (c, (unicodeEscape c.toNat).tail.length) := by
  have hcode : c.toNat < 128 := by
    simp only [needsEscape, Bool.or_eq_true, Bool.and_eq_true, decide_eq_true_eq, beq_iff_eq] at h
    omega
  have hread := codePoint?_unicodeEscape c.toNat hcode
  rw [Char.ofNat_toNat] at hread
  show (codePoint? 4 ((unicodeEscape c.toNat).drop 2 ++ more)).map (fun c => (c, 5)) = some (c, 5)
  have hmore : codePoint? 4 ((unicodeEscape c.toNat).drop 2 ++ more) = codePoint? 4 ((unicodeEscape c.toNat).drop 2) :=
    rfl
  rw [hmore, hread]
  rfl

/-- how one character other than the double quote is printed: as an escape, or as itself -/
theorem printedChar_cases (isBlock : Bool) (c : Char) :
    (∃ escape, printedChar isBlock c = '\\' :: escape ∧
      ∀ more, escapeAt? (escape ++ more) = some (c, escape.length)) ∨
    (printedChar isBlock c = [c] ∧ c ≠ '\\' ∧ (c = '\n' ∧ isBlock = true ∨ isPlain c = true)) := by
  unfold printedChar
  split_ifs with hb ht hn hblock hf hr hslash hescape
  · exact .inl ⟨_, rfl, fun more => by rw [hb]; rfl⟩
  · exact .inl ⟨_, rfl, fun more => by rw [ht]; rfl⟩
  · exact .inr ⟨by rw [hn], by rw [hn]; decide, .inl ⟨hn, hblock⟩⟩
  · exact .inl ⟨_, rfl, fun more => by rw [hn]; rfl⟩
  · exact .inl ⟨_, rfl, fun more => by rw [hf]; rfl⟩
  · exact .inl ⟨_, rfl, fun more => by rw [hr]; rfl⟩
  · exact .inl ⟨_, rfl, fun more => by rw [hslash]; rfl⟩
  · exact .inl ⟨_, rfl, escapeAt?_unicodeEscape hescape⟩
  · refine .inr ⟨rfl, hslash, .inr (isPlain_of_needsEscape ?_ hn)⟩
    simpa using hescape

/-! ## Between double quotes -/

theorem lineBody_printedChar {c : Char} (hquote : c ≠ doubleQuote) (taken more : List Char) :
    lineBody doubleQuote 0 taken (printedChar false c ++ more) = lineBody doubleQuote 0 (c :: taken) more := by
  rcases printedChar_cases false c with ⟨escape, hprinted, hread⟩ | ⟨hprinted, hslash, hblock | hplain⟩
  · rw [hprinted]
    exact lineBody_escape (hread more) taken
  · cases hblock.2
  · rw [hprinted]
    exact lineBody_plain hquote hplain (fun h => (hslash h).elim) taken more

/-- a line between double quotes can hold any text -/
theorem lineBody_printedChars (text taken rest : List Char) (run : Nat) :
    lineBody doubleQuote 0 taken (printedChars false run text ++ doubleQuote :: rest) =
      some (String.ofList (taken.reverse ++ text), rest) := by
  induction text generalizing taken run with
  | nil => rw [printedChars, List.nil_append, lineBody_quote, List.append_nil]
  | cons c text ih =>
    simp only [printedChars, Bool.false_eq_true, if_false, Nat.not_lt_zero]
    split_ifs with hquote
    · have hescape : escapeAt? ([c] ++ (printedChars false 0 text ++ doubleQuote :: rest)) = some (c, 1) := by
        rw [hquote]; rfl
      have hread := lineBody_escape hescape taken
      simp only [List.cons_append, List.nil_append] at hread ⊢
      rw [hread, ih]
      simp
    · rw [List.append_assoc, lineBody_printedChar hquote, ih]
      simp

/-- a double quote is escaped even in front -/
theorem head_printedChars (text : List Char) (run : Nat) : (printedChars false run text).head? ≠ some doubleQuote := by
  cases text with
  | nil => simp [printedChars]
  | cons c text =>
    simp only [printedChars, Bool.false_eq_true, if_false, Nat.not_lt_zero]
    split_ifs with hquote
    · simp [doubleQuote]
    · rcases printedChar_cases false c with ⟨escape, hprinted, -⟩ | ⟨hprinted, -, -⟩
      · rw [hprinted]; simp [doubleQuote]
      · rw [hprinted]; simpa [doubleQuote] using hquote

theorem blockSpelling_printedChars (text : List Char) (run : Nat) :
    BlockSpelling doubleQuote run (printedChars true run text) text := by
  induction text generalizing run with
  | nil => exact .nil run
  | cons c text ih =>
    simp only [printedChars, if_true]
    split_ifs with hquote hrun
    · subst hquote
      exact .quote hrun (ih (run + 1))
    · refine @BlockSpelling.piece _ _ '\\' c [c] _ _ (by decide) (fun taken more => blockBody_escape ?_ taken) (ih 0)
      rw [hquote]; rfl
    · rcases printedChar_cases true c with ⟨escape, hprinted, hread⟩ | ⟨hprinted, hslash, ⟨hlf, -⟩ | hplain⟩
      · rw [hprinted]
        exact .piece (by decide) (fun taken more => blockBody_escape (hread more) taken) (ih 0)
      · rw [hprinted, hlf]
        exact @BlockSpelling.piece _ _ _ _ [] _ _ (by decide) (blockBody_line doubleQuote) (ih 0)
      · rw [hprinted]
        exact @BlockSpelling.piece _ _ _ _ [] _ _ hquote
          (blockBody_plain hquote hplain (fun h => (hslash h).elim)) (ih 0)

/-- what is printed between double quotes begins with a line end only where the text does, and never with CR -/
theorem lineEnd?_printedChars {text : List Char} (h : '\n' ∉ text) (rest : List Char) :
    lineEnd? (printedChars true 0 text ++ List.replicate 3 doubleQuote ++ rest) = none := by
  cases text with
  | nil => rfl
  | cons c text =>
    simp only [printedChars, if_true]
    split_ifs with hquote hrun
    · rw [hquote]; rfl
    · exact absurd (Nat.zero_lt_two) hrun
    · rcases printedChar_cases true c with ⟨escape, hprinted, -⟩ | ⟨hprinted, -, ⟨rfl, -⟩ | hplain⟩
      · rw [hprinted]; rfl
      · exact absurd (List.mem_cons_self) h
      · rw [hprinted]
        exact lineEnd?_of_isPlain hplain _

/-! ## Between single quotes -/

theorem le_longestRun (mark : Char) (current longest : Nat) (text : List Char) :
    longest ≤ longestRun mark current longest text := by
  induction text generalizing current longest with
  | nil => exact Nat.le_refl longest
  | cons c text ih =>
    rw [longestRun]
    split_ifs with hmark
    · exact (Nat.le_max_left longest (current + 1)).trans (ih _ _)
    · exact ih _ _

/-- a text whose longest run is empty does not hold the character at all -/
theorem not_mem_of_longestRun {mark : Char} {text : List Char} {current longest : Nat}
    (h : longestRun mark current longest text = 0) : mark ∉ text := by
  induction text generalizing current longest with
  | nil => simp
  | cons c text ih =>
    rw [longestRun] at h
    split_ifs at h with hmark
    · have hle := le_longestRun mark (current + 1) (max longest (current + 1)) text
      omega
    · simp only [List.mem_cons, not_or]
      exact ⟨fun heq => hmark heq.symm, ih h⟩

theorem lineBody_literal {text : List Char} (hescape : text.any needsEscape = false) (hlf : '\n' ∉ text)
    (hquote : singleQuote ∉ text) (taken rest : List Char) :
    lineBody singleQuote 0 taken (text ++ singleQuote :: rest) =
      some (String.ofList (taken.reverse ++ text), rest) := by
  induction text generalizing taken with
  | nil => rw [List.nil_append, lineBody_quote, List.append_nil]
  | cons c text ih =>
    simp only [List.any_cons, Bool.or_eq_false_iff] at hescape
    simp only [List.mem_cons, not_or] at hlf hquote
    have hplain : isPlain c = true := isPlain_of_needsEscape hescape.1 (fun h => hlf.1 h.symm)
    rw [List.cons_append, lineBody_plain (fun h => hquote.1 h.symm) hplain (fun _ => by decide),
      ih hescape.2 hlf.2 hquote.2]
    simp

theorem blockSpelling_literal {text : List Char} (hescape : text.any needsEscape = false) {run longest : Nat}
    (hruns : longestRun singleQuote run longest text ≤ 2) : BlockSpelling singleQuote run text text := by
  induction text generalizing run longest with
  | nil => exact .nil run
  | cons c text ih =>
    simp only [List.any_cons, Bool.or_eq_false_iff] at hescape
    rw [longestRun] at hruns
    split_ifs at hruns with hquote
    · have hle := le_longestRun singleQuote (run + 1) (max longest (run + 1)) text
      subst hquote
      exact .quote (by omega) (ih hescape.2 hruns)
    · by_cases hlf : c = '\n'
      · subst hlf
        exact @BlockSpelling.piece _ _ _ _ [] _ _ hquote (blockBody_line singleQuote) (ih hescape.2 hruns)
      · exact @BlockSpelling.piece _ _ _ _ [] _ _ hquote
          (blockBody_plain hquote (isPlain_of_needsEscape hescape.1 hlf) (fun _ => by decide)) (ih hescape.2 hruns)

theorem lineEnd?_literal {text : List Char} (hescape : text.any needsEscape = false) (hlf : '\n' ∉ text)
    (rest : List Char) : lineEnd? (text ++ List.replicate 3 singleQuote ++ rest) = none := by
  cases text with
  | nil => rfl
  | cons c text =>
    simp only [List.any_cons, Bool.or_eq_false_iff] at hescape
    simp only [List.mem_cons, not_or] at hlf
    exact lineEnd?_of_isPlain (isPlain_of_needsEscape hescape.1 (fun h => hlf.1 h.symm)) _

/-! ## Text of any form -/

theorem textForm_literalLine {text : List Char} (h : textForm text = .literalLine) :
    text.any needsEscape = false ∧ '\n' ∉ text ∧ singleQuote ∉ text := by
  simp only [textForm] at h
  split_ifs at h with hline hliteral
  simp only [Bool.and_eq_true, Bool.not_eq_eq_eq_not, Bool.not_true, beq_iff_eq] at hliteral
  obtain ⟨⟨hescape, hlf⟩, hruns⟩ := hliteral
  exact ⟨hescape, by simpa using hlf, not_mem_of_longestRun hruns⟩

theorem textForm_literalBlock {text : List Char} (h : textForm text = .literalBlock) :
    text.any needsEscape = false ∧ longestRun singleQuote 0 0 text ≤ 2 := by
  simp only [textForm] at h
  split_ifs at h with hline hliteral hblock hruns
  simp only [Bool.and_eq_true, Bool.not_eq_eq_eq_not, Bool.not_true, decide_eq_true_eq] at hruns
  exact hruns

/-- a line is read back if its inside is -/
theorem readText_enclose {quote : Char} (hquote : IsQuote quote) {text : String} {inner rest : List Char}
    (hinner : inner.head? ≠ some quote) (hrest : rest.head? ≠ some quote)
    (hbody : lineBody quote 0 [] (inner ++ quote :: rest) = some (text, rest)) :
    readText (enclose quote 1 inner ++ rest) = some (text, rest) := by
  have hline := readText_line hquote hinner hrest
  have henclosed : enclose quote 1 inner ++ rest = quote :: (inner ++ quote :: rest) := by simp [enclose]
  rw [henclosed, hline, hbody]

/-- a block is read back, on lines of its own or not -/
theorem readText_blockInner {quote : Char} (hquote : IsQuote quote) {text inner rest : List Char}
    (hspelled : BlockSpelling quote 0 inner text) (hrest : rest.head? ≠ some quote)
    (hline : '\n' ∉ text → lineEnd? (inner ++ List.replicate 3 quote ++ rest) = none) :
    readText (enclose quote 3 (blockInner text inner) ++ rest) = some (String.ofList text, rest) := by
  have hlf : quote ≠ '\n' := by rcases hquote with rfl | rfl <;> decide
  have hcr : quote ≠ '\r' := by rcases hquote with rfl | rfl <;> decide
  have hread := hspelled.read hlf hcr [] hrest
  rw [enclose, List.append_assoc, List.append_assoc, readText_block hquote, ← List.append_assoc]
  by_cases hlines : '\n' ∈ text
  · have hinner : blockInner text inner = '\n' :: inner := by simp [blockInner, hlines]
    rw [hinner]
    exact hread
  · have hinner : blockInner text inner = inner := by simp [blockInner, hlines]
    rw [hinner, readBlock_plain (hline hlines)]
    exact hread

/-- **Printed text is read back**, whatever it holds. -/
theorem readText_printedText (text : String) (rest : List Char) :
    readText (printedText text ++ '\n' :: rest) = some (text, '\n' :: rest) := by
  have hdouble : ('\n' :: rest).head? ≠ some doubleQuote := by simp [doubleQuote]
  have hsingle : ('\n' :: rest).head? ≠ some singleQuote := by simp [singleQuote]
  cases hform : textForm text.toList with
  | line =>
    have hread := readText_enclose (.inl rfl) (head_printedChars text.toList 0) hdouble
      (lineBody_printedChars text.toList [] ('\n' :: rest) 0)
    rw [List.reverse_nil, List.nil_append, String.ofList_toList] at hread
    simp only [printedText, hform]
    exact hread
  | literalLine =>
    obtain ⟨hescape, hlf, hquote⟩ := textForm_literalLine hform
    have hhead : text.toList.head? ≠ some singleQuote := fun h => hquote (List.mem_of_head? h)
    have hread := readText_enclose (.inr rfl) hhead hsingle (lineBody_literal hescape hlf hquote [] ('\n' :: rest))
    rw [List.reverse_nil, List.nil_append, String.ofList_toList] at hread
    simp only [printedText, hform]
    exact hread
  | block =>
    have hread := readText_blockInner (.inl rfl) (blockSpelling_printedChars text.toList 0) hdouble
      (fun hlf => lineEnd?_printedChars hlf _)
    rw [String.ofList_toList] at hread
    simp only [printedText, hform]
    exact hread
  | literalBlock =>
    obtain ⟨hescape, hruns⟩ := textForm_literalBlock hform
    have hread := readText_blockInner (.inr rfl) (blockSpelling_literal hescape hruns) hsingle
      (fun hlf => lineEnd?_literal hescape hlf _)
    rw [String.ofList_toList] at hread
    simp only [printedText, hform]
    exact hread

end BlockProbe.Settings
