/-
Reading a text line by line.

Reading has two halves, which meet in the list of statements. `readTable_of_statements` puts them together, so that each
half can be looked at alone.

- `spells_number`, `spells_text`: the values that a line may end with.
- `readStatements_assignment`, `readStatements_header`, `readStatements_blank`: what one line adds to the statements.
-/
import BlockProbe.Proofs.Toml.Number
import BlockProbe.Toml.Read

namespace BlockProbe.Toml

/-- a text that does not begin with a byte order mark is read as it stands -/
theorem skipMark_of_ne {text : List Char} (h : text.head? ≠ some byteOrderMark) : skipMark text = text := by
  cases text with
  | nil => rfl
  | cons c rest =>
    rw [skipMark, if_neg]
    rintro rfl
    exact h rfl

/-- a text spells the table that its statements make -/
theorem readTable_of_statements {text : String} {statements : List Statement} {table : Table}
    (hmark : text.toList.head? ≠ some byteOrderMark)
    (hread : readStatements (text.toList.length + 1) text.toList = some statements)
    (htable : assemble statements = some table) : readTable text = some table := by
  unfold readTable
  simp only [skipMark_of_ne hmark, hread, Option.bind_eq_bind, Option.bind_some, htable]

/-! ## Values -/

/-- what begins with a digit is a number or a moment -/
theorem readValueWithin_digit {c : Char} (h : isDigit c = true) (nesting : Nat) (more : List Char) :
    readValueWithin nesting (c :: more) = readNumeric (c :: more) := by
  have hne : ∀ other, isDigit other = false → c ≠ other := fun other hother => ne_of_isDigit h hother
  have ht := hne 't' (by decide)
  have hf := hne 'f' (by decide)
  have hbracket := hne '[' (by decide)
  have hbrace := hne '\x7b' (by decide)
  have hdouble := hne '\x22' (by decide)
  have hsingle := hne '\x27' (by decide)
  unfold readValueWithin
  split <;> simp_all

/-- these characters, up to the end of their line, are a value and do not begin with a blank -/
structure Spells (printed : List Char) (value : Value) : Prop where
  blank (rest : List Char) : skipBlanks (printed ++ '\n' :: rest) = printed ++ '\n' :: rest
  value (rest : List Char) : readValue (printed ++ '\n' :: rest) = some (value, '\n' :: rest)

theorem spells_number {n : Nat} (h : n < 2 ^ 63) : Spells (Nat.toDigits 10 n) (.integer (Int64.ofNat n)) := by
  have hdigits := digits_toDigits n
  have hread := readNumeric_toDigits h
  cases hprinted : Nat.toDigits 10 n with
  | nil => exact absurd hprinted Nat.toDigits_ne_nil
  | cons d digits =>
    rw [hprinted] at hdigits hread
    have hd : isDigit d = true := hdigits d (by simp)
    refine ⟨fun rest => ?_, fun rest => ?_⟩
    · have hspace : d ≠ ' ' := ne_of_isDigit hd (by decide)
      have htab : d ≠ '\t' := ne_of_isDigit hd (by decide)
      simp [skipBlanks, isBlank, hspace, htab]
    · rw [← hread rest]
      exact readValueWithin_digit hd nestingLimit (digits ++ '\n' :: rest)

theorem spells_true : Spells ['t', 'r', 'u', 'e'] (.boolean true) := ⟨fun _ => rfl, fun _ => rfl⟩

theorem spells_false : Spells ['f', 'a', 'l', 's', 'e'] (.boolean false) := ⟨fun _ => rfl, fun _ => rfl⟩

/-- text that is read begins with a quote -/
theorem head_of_readText {printed : List Char} {read : String × List Char} (h : readText printed = some read) :
    ∃ more, printed = '\x22' :: more ∨ printed = '\x27' :: more := by
  unfold readText at h
  split at h
  · exact ⟨_, .inl rfl⟩
  · exact ⟨_, .inr rfl⟩
  · unfold readLine at h
    split at h
    · exact ⟨_, .inl rfl⟩
    · exact ⟨_, .inr rfl⟩
    · cases h

/-- quoted text is a value -/
theorem spells_text {printed : List Char} {text : String}
    (h : ∀ rest, readText (printed ++ '\n' :: rest) = some (text, '\n' :: rest)) : Spells printed (.text text) := by
  refine ⟨fun rest => ?_, fun rest => ?_⟩
  · obtain ⟨more, heq | heq⟩ := head_of_readText (h rest)
    · rw [heq]; rfl
    · rw [heq]; rfl
  · have hread := h rest
    obtain ⟨more, heq | heq⟩ := head_of_readText hread
    · rw [heq] at hread ⊢
      simp only [readValue, readValueWithin, hread, Option.map_some]
    · rw [heq] at hread ⊢
      simp only [readValue, readValueWithin, hread, Option.map_some]

/-! ## Lines -/

theorem ne_of_isBareKey {c other : Char} (h : isBareKey c = true) (hother : isBareKey other = false) : c ≠ other := by
  rintro rfl
  rw [h] at hother
  cases hother

/-- a line that holds one statement adds it -/
theorem readStatements_line {c : Char} {more rest : List Char} {statement : Statement}
    (hskip : skipComment (skipBlanks (c :: more)) = c :: more) (hlf : c ≠ '\n') (hcr : c ≠ '\r')
    (hread : readStatement (c :: more) = some (statement, '\n' :: rest)) (allowance : Nat) :
    readStatements (allowance + 1) (c :: more) = (readStatements allowance rest).map (statement :: ·) := by
  have hend : endOfLine? ('\n' :: rest) = some rest := rfl
  rw [readStatements, hskip]
  split
  · next heq => cases heq
  · next heq => exact absurd (List.cons.inj heq).1 hlf
  · next heq => exact absurd (List.cons.inj heq).1 hcr
  · simp only [hread, Option.bind_eq_bind, Option.bind_some, hend]
    cases readStatements allowance rest <;> rfl

/-- a bare key -/
def IsKey (key : String) : Prop := key.toList ≠ [] ∧ key.toList.all isBareKey = true

instance (key : String) : Decidable (IsKey key) := inferInstanceAs (Decidable (_ ∧ _))

section Key

variable {key : String} (hkey : IsKey key)
include hkey

/-- a text that begins with a bare key begins with none of the characters that mean something else -/
theorem head_of_isKey (rest : List Char) :
    ∃ c more, key.toList ++ rest = c :: more ∧ isBareKey c = true := by
  obtain ⟨hne, hall⟩ := hkey
  cases hchars : key.toList with
  | nil => exact (hne hchars).elim
  | cons c cs =>
    rw [hchars] at hall
    exact ⟨c, cs ++ rest, rfl, List.all_eq_true.1 hall c (by simp)⟩

theorem skipBlanks_key (rest : List Char) : skipBlanks (key.toList ++ rest) = key.toList ++ rest := by
  obtain ⟨c, more, heq, hc⟩ := head_of_isKey hkey rest
  have hspace : c ≠ ' ' := ne_of_isBareKey hc (by decide)
  have htab : c ≠ '\t' := ne_of_isBareKey hc (by decide)
  rw [heq]
  simp [skipBlanks, isBlank, hspace, htab]

theorem skipComment_key (rest : List Char) : skipComment (key.toList ++ rest) = key.toList ++ rest := by
  obtain ⟨c, more, heq, hc⟩ := head_of_isKey hkey rest
  have hhash : c ≠ '#' := ne_of_isBareKey hc (by decide)
  rw [heq]
  simp [skipComment, hhash]

/-- a bare key is read up to the first character that is none of its own -/
theorem readKeyPart_key {stop : Char} (hstop : isBareKey stop = false) (rest : List Char) :
    readKeyPart (key.toList ++ stop :: rest) = some (key, stop :: rest) := by
  have hall := List.all_eq_true.1 hkey.2
  have htaken : (key.toList ++ stop :: rest).takeWhile isBareKey = key.toList := by
    rw [List.takeWhile_append_of_pos hall]
    simp [hstop]
  have hleft : (key.toList ++ stop :: rest).dropWhile isBareKey = stop :: rest := by
    rw [List.dropWhile_append_of_pos hall]
    simp [hstop]
  have hne : key.toList.isEmpty = false := by simpa using hkey.1
  unfold readKeyPart
  simp only [htaken, hleft, hne, String.ofList_toList]
  rfl

theorem readKey_key {stop : Char} (hstop : isBareKey stop = false) {rest : List Char}
    (hdot : (skipBlanks (stop :: rest)).head? ≠ some '.') :
    readKey (key.toList ++ stop :: rest) = some ([key], skipBlanks (stop :: rest)) := by
  show readKeyUpTo (78 + 1) (key.toList ++ stop :: rest) = _
  rw [readKeyUpTo, skipBlanks_key hkey, readKeyPart_key hkey hstop]
  simp only [Option.bind_eq_bind, Option.bind_some]
  split
  · next more heq => exact absurd (by rw [heq]; rfl) hdot
  · rfl

/-- a heading -/
theorem readStatement_header (rest : List Char) :
    readStatement ('[' :: (key.toList ++ ']' :: rest)) = some (.header [key], rest) := by
  have hread := @readKey_key key hkey ']' (by decide) rest (by simp [skipBlanks, isBlank])
  obtain ⟨c, more, heq, hc⟩ := head_of_isKey hkey (']' :: rest)
  have hbracket : c ≠ '[' := ne_of_isBareKey hc (by decide)
  rw [heq] at hread ⊢
  unfold readStatement
  simp [hbracket, hread, skipBlanks, isBlank, expect]

/-- a key with its value -/
theorem readStatement_assignment {text rest : List Char} {value : Value} (hblank : skipBlanks text = text)
    (hvalue : readValue text = some (value, rest)) :
    readStatement (key.toList ++ ' ' :: '=' :: ' ' :: text) = some (.assignment [key] value, rest) := by
  have hread := @readKey_key key hkey ' ' (by decide) ('=' :: ' ' :: text) (by simp [skipBlanks, isBlank])
  obtain ⟨c, more, heq, hc⟩ := head_of_isKey hkey (' ' :: '=' :: ' ' :: text)
  have hbracket : c ≠ '[' := ne_of_isBareKey hc (by decide)
  have hequals : skipBlanks (' ' :: '=' :: ' ' :: text) = '=' :: ' ' :: text := rfl
  have hafter : skipBlanks (' ' :: text) = text := hblank
  have hexpect : expect '=' ('=' :: ' ' :: text) = some (' ' :: text) := rfl
  rw [hequals] at hread
  have hpair : readPair readValue (key.toList ++ ' ' :: '=' :: ' ' :: text) = some (([key], value), rest) := by
    unfold readPair
    simp only [hread, hexpect, hafter, hvalue, Option.bind_eq_bind, Option.bind_some]
  rw [heq] at hpair
  rw [heq]
  unfold readStatement
  simp [hbracket, hpair]

/-- a heading's line adds a heading -/
theorem readStatements_header (allowance : Nat) (rest : List Char) :
    readStatements (allowance + 1) ('[' :: (key.toList ++ ']' :: '\n' :: rest)) =
      (readStatements allowance rest).map (.header [key] :: ·) :=
  readStatements_line rfl (by decide) (by decide) (readStatement_header hkey ('\n' :: rest)) allowance

/-- a setting's line adds an assignment -/
theorem readStatements_assignment (allowance : Nat) {printed : List Char} {value : Value}
    (hvalue : Spells printed value) (rest : List Char) :
    readStatements (allowance + 1) (key.toList ++ ' ' :: '=' :: ' ' :: (printed ++ '\n' :: rest)) =
      (readStatements allowance rest).map (.assignment [key] value :: ·) := by
  have hstatement := readStatement_assignment hkey (hvalue.blank rest) (hvalue.value rest)
  have hskip : skipComment (skipBlanks (key.toList ++ ' ' :: '=' :: ' ' :: (printed ++ '\n' :: rest))) =
      key.toList ++ ' ' :: '=' :: ' ' :: (printed ++ '\n' :: rest) := by
    rw [skipBlanks_key hkey, skipComment_key hkey]
  obtain ⟨c, more, heq, hc⟩ := head_of_isKey hkey (' ' :: '=' :: ' ' :: (printed ++ '\n' :: rest))
  rw [heq] at hstatement hskip ⊢
  exact readStatements_line hskip (ne_of_isBareKey hc (by decide)) (ne_of_isBareKey hc (by decide)) hstatement allowance

end Key

/-- an empty line adds nothing -/
theorem readStatements_blank (allowance : Nat) (rest : List Char) :
    readStatements (allowance + 1) ('\n' :: rest) = readStatements allowance rest := rfl

/-- nothing comes of the end of the text -/
theorem readStatements_nil (allowance : Nat) : readStatements (allowance + 1) [] = some [] := rfl

end BlockProbe.Toml
