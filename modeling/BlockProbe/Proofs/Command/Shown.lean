/-
What the operator sees of a read-back.

The line about a read-back gives the number of its bytes and shows them as text. Bytes that are no text show U+FFFD, so
what is shown without it stands for one sequence of bytes only, and the line that reports the payload is printed for the
payload alone: it agrees with the verdict, whatever a target gives back.

- `data_of_payloadLine`: nothing but the payload begins with the line of the payload.
- `carryOut_faithful`: what a plan that is carried out prints of its read-back, against the verdict on it.
- `shown_faithful`: what a read-back is shown as, and what the line and the verdict say of each other.
-/
import BlockProbe.Proofs.Command.Reporting
import BlockProbe.Proofs.Text.Lossy

namespace BlockProbe.Command

open BlockProbe.Files (Attempt)
open BlockProbe.Log (Filter)
open BlockProbe.Probe (ReadBack Target payload)

/-- the line that reports the payload -/
def payloadLine : String := "Read 15 bytes: \"Excelero NVMesh\"\n"

/-! ## The line -/

/-- a number ends where a space follows it -/
theorem digits_then_space {digits others rest more : List Char} (hdigits : ∀ c ∈ digits, c.isDigit = true)
    (hothers : ∀ c ∈ others, c.isDigit = true) (h : digits ++ ' ' :: rest = others ++ ' ' :: more) :
    digits = others ∧ rest = more := by
  have htaken := congrArg (List.takeWhile Char.isDigit) h
  rw [List.takeWhile_append_of_pos hdigits, List.takeWhile_append_of_pos hothers,
    List.takeWhile_cons_of_neg (by decide), List.takeWhile_cons_of_neg (by decide), List.append_nil,
    List.append_nil] at htaken
  subst htaken
  exact ⟨rfl, (List.cons.inj (List.append_cancel_left h)).2⟩

theorem readLine_toList (read : ReadBack) (rest : List Char) :
    (readLine read).toList ++ rest = "Read ".toList ++ (Nat.toDigits 10 read.data.length ++
      ' ' :: ("bytes: \"".toList ++ (read.shown.toList ++ ("\"\n".toList ++ rest)))) := by
  simp [readLine]

/-- where two lines begin alike, as many bytes are reported, and their texts begin alike -/
theorem readLine_parts {read other : ReadBack} {rest more : List Char}
    (h : (readLine read).toList ++ rest = (readLine other).toList ++ more) :
    read.data.length = other.data.length ∧
      read.shown.toList ++ ("\"\n".toList ++ rest) = other.shown.toList ++ ("\"\n".toList ++ more) := by
  rw [readLine_toList, readLine_toList] at h
  have hdigits (n : Nat) : ∀ c ∈ Nat.toDigits 10 n, c.isDigit = true := fun c hc =>
    Nat.isDigit_of_mem_toDigits (by decide) (by decide) hc
  obtain ⟨hnumber, hwords⟩ := digits_then_space (hdigits _) (hdigits _) (List.append_cancel_left h)
  refine ⟨?_, List.append_cancel_left hwords⟩
  calc read.data.length
    _ = Nat.ofDigitChars 10 (Nat.toDigits 10 read.data.length) 0 := Nat.ofDigitChars_ten_toDigits.symm
    _ = Nat.ofDigitChars 10 (Nat.toDigits 10 other.data.length) 0 := by rw [hnumber]
    _ = other.data.length := Nat.ofDigitChars_ten_toDigits

theorem shown_payload {read : ReadBack} (h : read.data = payload) : read.shown = "Excelero NVMesh" := by
  rw [ReadBack.shown, h]
  exact Text.lossy_encode _

theorem readLine_payload {read : ReadBack} (h : read.data = payload) : readLine read = payloadLine := by
  rw [readLine, shown_payload h, h, payload_length]
  decide

/-- the beginning of a shown payload stands for as many bytes -/
theorem data_of_shown {read : ReadBack} (hlength : read.data.length = 15)
    (h : read.shown.toList <+: "Excelero NVMesh".toList) : read.data = payload := by
  have hnone : Text.replacement ∉ read.shown.toList := fun hmem => absurd (h.subset hmem) (by decide)
  have hdata : read.data = Text.encode read.shown := (Text.lossy_eq_iff hnone).1 rfl
  obtain ⟨more, hmore⟩ := h
  have hpayload : payload = read.data ++ more.flatMap String.utf8EncodeChar := by
    rw [hdata]
    unfold payload Text.encode
    rw [← hmore, List.flatMap_append]
  -- the payload is as long as the data, so nothing is left over
  have hrest : more.flatMap String.utf8EncodeChar = [] := by
    have hboth := congrArg List.length hpayload
    rw [List.length_append, payload_length, hlength] at hboth
    exact List.length_eq_zero_iff.1 (by omega)
  rw [hpayload, hrest, List.append_nil]

/-- **Nothing but the payload begins with the line of the payload.** -/
theorem data_of_payloadLine {read : ReadBack} {rest more : List Char}
    (h : (readLine read).toList ++ rest = payloadLine.toList ++ more) : read.data = payload := by
  have hline : payloadLine = readLine { requested := 15, data := payload } := (readLine_payload rfl).symm
  rw [hline] at h
  obtain ⟨hlength, hshown⟩ := readLine_parts h
  rw [payload_length] at hlength
  have hpayload : ReadBack.shown { requested := 15, data := payload } = "Excelero NVMesh" := shown_payload rfl
  rw [hpayload] at hshown
  have hfits : read.shown.toList.length ≤ "Excelero NVMesh".toList.length :=
    calc read.shown.toList.length
      _ ≤ read.data.length := Text.length_lossy_le read.data
      _ = "Excelero NVMesh".toList.length := hlength
  have hbegins : read.shown.toList <+: "Excelero NVMesh".toList ++ ("\"\n".toList ++ more) := ⟨_, hshown⟩
  exact data_of_shown hlength (List.prefix_of_prefix_length_le hbegins (List.prefix_append _ _) hfits)

/-- the line is the payload's for the payload alone -/
theorem readLine_eq_payloadLine {read : ReadBack} : readLine read = payloadLine ↔ read.data = payload := by
  constructor
  · intro h
    exact data_of_payloadLine (congrArg (fun line => line.toList ++ []) h)
  · exact readLine_payload

/-! ## The run -/

/-- the line is printed behind the one that announces the target -/
def Transcript.Prints (run : Transcript) (made : Plan) (line : String) : Prop :=
  ∃ rest, run.output = writingLine made ++ line ++ rest

/-- what a run prints of a read-back, and how that agrees with the verdict on it -/
structure Faithful (made : Plan) (read : ReadBack) (run : Transcript) : Prop where
  line : run.Prints made (readLine read)
  matched : run.Prints made payloadLine ↔ read.data = payload
  verdict : run.Prints made payloadLine ↔ Probe.verify made.path payload read = .ok ()
  /-- where the verdict counts, the run fails exactly if another line is printed -/
  enforced : made.verify = true → (run.Prints made payloadLine ↔ ∀ failure, run.outcome ≠ .failed failure)
  /-- and nothing is logged as verified next to another line -/
  vouched : verifiedRecord read ∈ run.records ↔ made.verify = true ∧ run.Prints made payloadLine

variable {made : Plan} {target : Target} {read : ReadBack} {run : Transcript}

/-- a run that prints the line of a read-back prints the payload's for the payload alone -/
theorem Transcript.Prints.payload_iff (h : run.Prints made (readLine read)) :
    run.Prints made payloadLine ↔ read.data = payload := by
  obtain ⟨rest, houtput⟩ := h
  constructor
  · rintro ⟨more, hmore⟩
    rw [houtput, String.append_assoc, String.append_assoc] at hmore
    have hlines := congrArg String.toList hmore
    simp only [String.toList_append] at hlines
    exact data_of_payloadLine (List.append_cancel_left hlines)
  · intro hdata
    exact ⟨rest, by rw [houtput, readLine_payload hdata]⟩

variable (filter : Filter) (tree : Files.Tree)

/-- the line about a read-back follows the line about the target, whatever the verdict is -/
theorem carryOut_prints (h : tried made target = .done read) :
    (carryOut made target filter tree).Prints made (readLine read) := by
  rw [carryOut_read filter tree h, judge_eq]
  cases made.verify with
  | false =>
    cases made.once with
    | true => exact ⟨"", String.append_empty.symm⟩
    | false => exact ⟨_, String.append_assoc⟩
  | true =>
    cases Probe.verify made.path payload read with
    | error error => exact ⟨"", String.append_empty.symm⟩
    | ok _ =>
      cases made.once with
      | true => exact ⟨"", String.append_empty.symm⟩
      | false => exact ⟨_, String.append_assoc⟩

/-- where the verdict counts, a plan fails for what differs from the payload -/
theorem carryOut_fails (h : tried made target = .done read) (hverify : made.verify = true) :
    (∀ failure, (carryOut made target filter tree).outcome ≠ .failed failure) ↔ read.data = payload := by
  rw [carryOut_read filter tree h, judge_enforcing hverify]
  dsimp only
  cases hverdict : Probe.verify made.path payload read with
  | error error =>
    have hdiffers : read.data ≠ payload := by
      intro hdata
      rw [Probe.verify_eq_ok.2 hdata] at hverdict
      cases hverdict
    simp only [hdiffers, iff_false]
    exact fun hnone => hnone (.probe error) (fail_outcome _ _)
  | ok _ =>
    simp only [Probe.verify_eq_ok.1 hverdict, iff_true]
    intro failure
    cases made.once <;> exact fun heq => by cases heq

/-- a read-back is logged as verified where the verdict counts, and is in its favour -/
theorem carryOut_vouches (h : tried made target = .done read) :
    verifiedRecord read ∈ (carryOut made target filter tree).records ↔ made.verify = true ∧ read.data = payload := by
  have hjudged : verifiedRecord read ∈ (judged made read filter tree).records ↔
      verifiedRecord read ∈ (judge made read).1 := by
    simp [judged, verifiedRecord, startingRecord, writtenRecord, readRecord]
  have hrecords : verifiedRecord read ∈ (carryOut made target filter tree).records ↔
      verifiedRecord read ∈ (judge made read).1 := by
    rw [← hjudged, carryOut_read filter tree h]
    cases (judge made read).2 with
    | error failure => cases failure <;> simp [Transcript.fail, failureRecord, verifiedRecord]
    | ok _ => cases made.once <;> rfl
  rw [hrecords]
  cases hverify : made.verify with
  | true =>
    rw [judge_enforcing hverify]
    by_cases hdata : read.data = payload <;> simp [hdata]
  | false =>
    unfold judge
    rw [if_neg (by simp [hverify])]
    split_ifs <;> simp [verifiedRecord, differsRecord]

/-- **A plan that gets a read-back reports it faithfully.** -/
theorem carryOut_faithful (h : tried made target = .done read) :
    Faithful made read (carryOut made target filter tree) := by
  have hline := carryOut_prints filter tree h
  have hmatched := hline.payload_iff
  refine ⟨hline, hmatched, hmatched.trans Probe.verify_eq_ok.symm, fun hverify => ?_, ?_⟩
  · exact hmatched.trans (carryOut_fails filter tree h hverify).symm
  · rw [hmatched]
    exact carryOut_vouches filter tree h

/-- **What is shown is faithful.** A text without U+FFFD is shown for its own UTF-8 bytes and for no others, and bytes
that are no text show U+FFFD. So whatever bytes a target gives back, the line of the payload is printed exactly if they
are the payload, and then exactly the verdict on them is in their favour. -/
theorem shown_faithful :
    (∀ (read : ReadBack) (text : String), Text.replacement ∉ text.toList →
      (read.shown = text ↔ read.data = Text.encode text)) ∧
    (∀ read : ReadBack, (∀ text, read.data ≠ Text.encode text) → Text.replacement ∈ read.shown.toList) ∧
    (∀ read : ReadBack, readLine read = "Read 15 bytes: \"Excelero NVMesh\"\n" ↔ read.data = payload) ∧
    (∀ (site : Site) (device : Device) (arguments : List String) (made : Plan) (read : ReadBack),
      Makes site arguments made → tried made (device.target made) = .done read →
      Faithful made read (runOn site device arguments)) := by
  refine ⟨fun read text hnone => Text.lossy_eq_iff hnone, fun read hnone => Text.replacement_mem_lossy hnone,
    fun read => readLine_eq_payloadLine, fun site device arguments made read hmade htried => ?_⟩
  obtain ⟨filter, hrun⟩ := @runOn_of_makes made site device arguments hmade
  rw [hrun]
  exact carryOut_faithful filter (device.after made) htried

/-- the encoded form of a surrogate, which is no character -/
def surrogateRead : ReadBack := { requested := 15, data := [0x45, 0xED, 0xA0, 0x80] }

/-- the surrogate shows U+FFFD, and the run on the stale target prints its own text and fails -/
theorem stale_shown_faithful :
    ((∀ text, surrogateRead.data ≠ Text.encode text) ∧ Text.replacement ∈ surrogateRead.shown.toList) ∧
    (Text.replacement ∉ "Excelero volume".toList ∧ staleRead.shown = "Excelero volume") ∧
    (Makes bareSite ["t", "--once"] barePlan ∧ tried barePlan (staleDevice.target barePlan) = .done staleRead) ∧
    ¬ (runOn bareSite staleDevice ["t", "--once"]).Prints barePlan payloadLine ∧
    ∃ failure, (runOn bareSite staleDevice ["t", "--once"]).outcome = .failed failure := by
  obtain ⟨hshown, hbroken, -, hruns⟩ := shown_faithful
  have hnone : ∀ text, surrogateRead.data ≠ Text.encode text := by
    intro text hdata
    have hagain : Text.encode (Text.lossy surrogateRead.data) = surrogateRead.data := by
      rw [hdata, Text.lossy_encode]
    exact absurd hagain (by decide)
  have hplain : Text.replacement ∉ "Excelero volume".toList := by decide
  have hfaithful := hruns bareSite staleDevice ["t", "--once"] barePlan staleRead bareSite_makes
    (staleDevice_tried barePlan)
  have hother : ¬ (runOn bareSite staleDevice ["t", "--once"]).Prints barePlan payloadLine :=
    fun hprints => absurd (hfaithful.matched.1 hprints) (by decide)
  refine ⟨⟨hnone, hbroken surrogateRead hnone⟩, ⟨hplain, (hshown staleRead _ hplain).2 rfl⟩,
    ⟨bareSite_makes, staleDevice_tried barePlan⟩, hother, ?_⟩
  by_contra hfails
  exact hother ((hfaithful.enforced rfl).2 (not_exists.1 hfails))

end BlockProbe.Command
