/-
What an argument looks like.

Each kind of argument is written in one way, so its looks give it back: an option is its name, alone or with a value
behind `=`, a flag is its name, and a text that is read as it stands is `-` or does not begin with a dash.

- `splitAttached_text`: a text is put together again from its name and the value attached to it.
- `looks_classify`: which texts are read as what.
-/
import BlockProbe.Proofs.Command.Insertion

namespace BlockProbe.Command

/-- a text that is not read as an option -/
def Undashed (text : String) : Prop := text = "-" ∨ text.toList.head? ≠ some '-'

/-- an option as it is written, alone or with a value attached -/
def written (name : String) : Option String → String
  | none => name
  | some value => name ++ "=" ++ value

/-- which texts are read as what; help, the version and what is refused are written in many ways -/
inductive Looks : String → Word → Prop
  | undashed {text : String} (h : Undashed text) : Looks text (.plain text)
  | endOfOptions : Looks "--" .endOfOptions
  | option (slot : Slot) (attached : Option String) : Looks (written slot.name attached) (.option slot attached)
  | flag (raised : Flag) : Looks raised.name (.flag raised)
  | help (text : String) : Looks text .help
  | version (text : String) : Looks text .version
  | refused (text : String) (refusal : Refusal) : Looks text (.refused refusal)

variable {text name value : String} {attached : Option String} {slot : Slot} {raised : Flag} {word : Word}

/-! ## Long options -/

/-- what is left behind the characters that pass begins with one that does not -/
theorem drop_takeWhile_cons {p : Char → Bool} {chars rest : List Char} {c : Char}
    (h : chars.drop (chars.takeWhile p).length = c :: rest) :
    p c = false ∧ chars = chars.takeWhile p ++ c :: rest := by
  have hparts : chars.takeWhile p ++ chars.dropWhile p = chars := List.takeWhile_append_dropWhile
  have hrest : chars.dropWhile p = c :: rest :=
    calc chars.dropWhile p
      _ = (chars.takeWhile p ++ chars.dropWhile p).drop (chars.takeWhile p).length := List.drop_left.symm
      _ = chars.drop (chars.takeWhile p).length := by rw [hparts]
      _ = c :: rest := h
  have hhead := List.head?_dropWhile_not p chars
  rw [hrest] at hhead hparts
  exact ⟨hhead, hparts.symm⟩

/-- a text is its name and the value attached to it -/
theorem splitAttached_text (h : splitAttached text = (name, attached)) : text = written name attached := by
  unfold splitAttached at h
  dsimp only at h
  split at h
  · cases h
    rfl
  · rename_i c chars hdrop
    cases h
    obtain ⟨hmark, hparts⟩ := drop_takeWhile_cons hdrop
    have hc : c = '=' := by simpa using hmark
    subst hc
    refine String.toList_injective ?_
    simpa [written] using hparts

/-- an option without a value is itself, or is refused for the value it has -/
theorem withoutValue_cases (name : String) (attached : Option String) (word : Word) :
    (attached = none ∧ withoutValue name attached word = word) ∨
      ∃ refusal, withoutValue name attached word = .refused refusal := by
  cases attached with
  | none => exact .inl ⟨rfl, rfl⟩
  | some value => exact .inr ⟨_, rfl⟩

theorem looks_longWord (text : String) : Looks text (longWord text) := by
  cases hsplit : splitAttached text with
  | mk name attached =>
    have htext := splitAttached_text hsplit
    have hbare (word : Word) (hword : attached = none → Looks text word) :
        Looks text (withoutValue name attached word) := by
      rcases withoutValue_cases name attached word with ⟨hnone, heq⟩ | ⟨refusal, heq⟩
      · rw [heq]
        exact hword hnone
      · rw [heq]
        exact .refused text refusal
    have hoption (slot : Slot) (hname : name = slot.name) : Looks text (.option slot attached) := by
      rw [htext, hname]
      exact .option slot attached
    have hflag (raised : Flag) (hname : name = raised.name) :
        Looks text (withoutValue name attached (.flag raised)) := by
      refine hbare _ fun hnone => ?_
      rw [htext, hnone, hname]
      exact .flag raised
    unfold longWord
    rw [hsplit]
    dsimp only
    split_ifs with hinterval hlevel hverify hsync honce
    · exact hoption .interval hinterval
    · exact hoption .level hlevel
    · exact hflag .noVerify hverify
    · exact hflag .sync hsync
    · exact hflag .once honce
    · exact hbare _ fun _ => .help text
    · exact hbare _ fun _ => .version text
    · exact .refused text _

/-- **An argument is written as it is read.** -/
theorem looks_classify (text : String) : Looks text (classify text) := by
  unfold classify
  split
  · rename_i h
    rw [show text = "--" from String.toList_injective h]
    exact .endOfOptions
  · exact looks_longWord text
  · exact .help text
  · exact .version text
  · exact .refused text _
  · rename_i hnone hlong hhelp hversion hletter
    refine .undashed (or_iff_not_imp_right.2 fun hdash => String.toList_injective ?_)
    cases hchars : text.toList with
    | nil => simp [hchars] at hdash
    | cons c rest =>
      obtain rfl : c = '-' := by simpa [hchars] using hdash
      cases rest with
      | nil => rfl
      | cons letter rest => exact (hletter letter rest hchars).elim

/-! ## And read as it is written -/

theorem classify_undashed (h : Undashed text) : classify text = .plain text := by
  rcases h with rfl | hhead
  · cbv
  · exact classify_of_head hhead

theorem classify_written (slot : Slot) (attached : Option String) :
    classify (written slot.name attached) = .option slot attached := by
  cases attached with
  | none => cases slot <;> cbv
  | some value => exact classify_attached slot value

theorem classify_end (text : String) : classify text = .endOfOptions ↔ text = "--" := by
  constructor
  · intro h
    have hlooks := looks_classify text
    rw [h] at hlooks
    cases hlooks
    rfl
  · rintro rfl
    cbv

/-- where `--` does not stand among the arguments, none of them ends the options -/
theorem goesOn_of_not_mem {arguments : List String} (h : "--" ∉ arguments) (hmem : text ∈ arguments) :
    classify text ≠ .endOfOptions := fun hend => h ((classify_end text).1 hend ▸ hmem)

end BlockProbe.Command
