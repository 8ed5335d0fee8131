/-
How often the arguments speak of each part of a request.

A reading keeps count: what is filled or about to be is what the arguments in front of `--` have spoken of, and the
texts that are no options are the values that options have taken and the path. So arguments that are accepted speak of
nothing twice, and where a word is added to them that says something again, they are refused wherever it stands.

- `foldlM_tally`: what every argument counts for, the whole reading counts for.
- `fills_of_parse`, `path_of_parse`: what accepted arguments have counted.
- `parse_excess`: a part given again, or another text beside the path.
-/
import BlockProbe.Proofs.Command.Routes
import BlockProbe.Proofs.Command.Words

namespace BlockProbe.Command

/-- is the part of the request filled? -/
def Request.fills (request : Request) : Part → Bool
  | .slot slot => request.gives slot
  | .flag flag => request.isRaised flag

/-- what arguments count for, each by whether the options have ended in front of it -/
def tally (weight : Bool → String → Int) : Bool → List String → Int
  | _, [] => 0
  | ended, text :: rest => weight ended text + tally weight (ended || classify text = .endOfOptions) rest

/-- a count that every argument changes by its weight -/
def Tallies (count : Progress → Int) (weight : Bool → String → Int) : Prop :=
  ∀ {text : String} {progress next : Progress}, Taken text progress next →
    count next = count progress + weight progress.optionsEnded text

/-- words that say again what a request already has, or that give it another path -/
inductive Excess (request : Request) : List String → Prop
  | flag {raised : Flag} (h : request.isRaised raised = true) : Excess request [raised.name]
  | attached {slot : Slot} (value : String) (h : request.gives slot = true) : Excess request [slot.name ++ "=" ++ value]
  | bare {slot : Slot} (h : request.gives slot = true) : Excess request [slot.name]
  | detached {slot : Slot} (value : String) (h : request.gives slot = true) : Excess request [slot.name, value]
  | path {text : String} (h : request.path.isSome = true) (htext : Undashed text) : Excess request [text]

variable {request : Request} {progress reading settled : Progress} {text : String} {part : Part}
  {before words after arguments : List String} {weight : Bool → String → Int}

/-! ## Counting -/

theorem Taken.optionsEnded_eq (h : Taken text progress next) :
    next.optionsEnded = (progress.optionsEnded || classify text = .endOfOptions) := by
  rw [Bool.eq_iff_iff, h.optionsEnded]
  simp

/-- **What every argument counts for, the whole reading counts for.** -/
theorem foldlM_tally {count : Progress → Int} (hcount : Tallies count weight)
    (h : arguments.foldlM take progress = .ok reading) :
    count reading = count progress + tally weight progress.optionsEnded arguments := by
  induction arguments generalizing progress with
  | nil =>
    cases h
    simp [tally]
  | cons text rest ih =>
    rw [List.foldlM_cons] at h
    obtain ⟨next, hfirst, h⟩ := bind_eq_ok.1 h
    have htaken := taken_of_take hfirst
    rw [ih h, hcount htaken, tally, htaken.optionsEnded_eq, add_assoc]

/-- arguments that do not end the options count for what they are, whatever follows -/
theorem tally_append (hbefore : "--" ∉ before) (after : List String) :
    tally weight false (before ++ after) = tally weight false before + tally weight false after := by
  induction before with
  | nil => simp [tally]
  | cons text rest ih =>
    have hopen := goesOn_of_not_mem hbefore List.mem_cons_self
    simp only [List.cons_append, tally, hopen, decide_false, Bool.or_false]
    rw [ih fun hmem => hbefore (List.mem_cons_of_mem _ hmem), add_assoc]

/-! ## Parts -/

/-- an argument in front of `--` counts for the part it speaks of -/
def partWeight (part : Part) (ended : Bool) (text : String) : Int :=
  (!ended && (classify text).part? == some part).toInt

/-- the part counts as filled, or as about to be -/
def Progress.speaks (part : Part) (progress : Progress) : Int :=
  (progress.request.fills part).toInt + (progress.pending.part? == some part).toInt

/-- a part that was not filled counts when it is -/
theorem toInt_filled {filled : Part} {before : Bool} (h : filled = part → before = false) :
    (filled == part || before).toInt = before.toInt + (filled == part).toInt := by
  by_cases hsame : filled = part
  · rw [h hsame, Bool.or_false]
    simp
  · simp [beq_false_of_ne hsame]

theorem store_fills {next : Request} {slot : Slot} {value : String} (h : store request slot value = .ok next)
    (part : Part) : next.fills part = (.slot slot == part || request.fills part) ∧
      (.slot slot = part → request.fills part = false) := by
  rcases store_eq_ok h with ⟨secs, rfl, hnone, -, rfl⟩ | ⟨level, rfl, hnone, -, rfl⟩
  · refine ⟨?_, fun heq => by subst heq; simp [Request.fills, Request.gives, hnone]⟩
    cases part with
    | slot slot => cases slot <;> rfl
    | flag raised => cases raised <;> rfl
  · refine ⟨?_, fun heq => by subst heq; simp [Request.fills, Request.gives, hnone]⟩
    cases part with
    | slot slot => cases slot <;> rfl
    | flag raised => cases raised <;> rfl

theorem raised_fills (request : Request) (raised : Flag) (part : Part) :
    (request.raised raised).fills part = (.flag raised == part || request.fills part) := by
  cases part with
  | slot slot => cases raised <;> cases slot <;> rfl
  | flag other => cases raised <;> cases other <;> rfl

theorem settle_speaks (h : settle progress = .ok settled) (part : Part) :
    progress.speaks part = (settled.request.fills part).toInt := by
  unfold Progress.speaks
  cases settled_of_settle h with
  | nothing hpending => simp [hpending, Pending.part?]
  | given hpending hstore =>
    obtain ⟨hnext, hfresh⟩ := store_fills hstore part
    simp [hpending, Pending.part?, hnext, toInt_filled hfresh]
  | path hpending _ =>
    have hsame (path : Option String) :
        Request.fills { progress.request with path } part = progress.request.fills part := by
      cases part with
      | slot slot => cases slot <;> rfl
      | flag raised => cases raised <;> rfl
    simp [hpending, hsame, Pending.part?]

theorem settled_pending (h : settle progress = .ok settled) : settled.pending = .nothing := by
  obtain ⟨request, rfl, -⟩ := settle_eq_ok h
  rfl

/-- every argument counts for the part it speaks of -/
theorem tallies_part (part : Part) : Tallies (Progress.speaks part) (partWeight part) := by
  intro text progress next h
  unfold partWeight
  cases h with
  | path value hsettle htext _ =>
    have hnone : (!progress.optionsEnded && (classify text).part? == some part) = false := by
      rcases htext with hended | hclass
      · simp [hended]
      · simp [hclass, Word.part?]
    rw [hnone, settle_speaks hsettle]
    simp [Progress.speaks, Pending.part?]
  | value hended hclass hpending =>
    rw [hclass]
    simp [Progress.speaks, hpending, Pending.part?, Word.part?]
  | endOfOptions hended hclass =>
    rw [hclass]
    simp [Progress.speaks, Word.part?]
  | option hended hclass hsettle =>
    rw [settle_speaks hsettle, hended, hclass]
    simp [Progress.speaks, Pending.part?, Word.part?]
  | attached hended hclass hsettle hstore =>
    obtain ⟨hnext, hfresh⟩ := store_fills hstore part
    rw [settle_speaks hsettle, hended, hclass]
    simp [Progress.speaks, settled_pending hsettle, Pending.part?, Word.part?, hnext, toInt_filled hfresh]
  | @flag settled raised hended hclass hsettle hraised =>
    have hfresh : Part.flag raised = part → settled.request.fills part = false := by
      rintro rfl
      exact hraised
    rw [settle_speaks hsettle, hended, hclass]
    simp [Progress.speaks, settled_pending hsettle, Pending.part?, Word.part?, raised_fills, toInt_filled hfresh]

/-- accepted arguments have spoken once of each part that they fill, and of no other -/
theorem fills_of_parse (h : parse arguments = .ok request) (part : Part) :
    tally (partWeight part) false arguments = (request.fills part).toInt := by
  obtain ⟨reading, hread, hfinal⟩ := bind_eq_ok.1 h
  obtain ⟨settled, hsettle, hrequest⟩ := bind_eq_ok.1 hfinal
  cases hrequest
  have htally := foldlM_tally (tallies_part part) hread
  have hstart : ({} : Progress).speaks part = 0 := by
    cases part with
    | slot slot => cases slot <;> rfl
    | flag raised => cases raised <;> rfl
  rw [settle_speaks (mapError_eq_ok.1 hsettle), hstart, zero_add] at htally
  exact htally.symm

/-! ## The path -/

/-- does an option wait for its value? -/
def Pending.awaits : Pending → Bool
  | .awaiting _ => true
  | _ => false

/-- a text that is no option counts for the path, unless an option is there to take it -/
def pathWeight (ended : Bool) (text : String) : Int :=
  if ended then 1
  else
    match classify text with
    | .plain _ => 1
    | .option _ none => -1
    | _ => 0

/-- the path counts when it is there, and an option that waits for its value counts against it -/
def Progress.texts (progress : Progress) : Int := progress.hasPath.toInt - progress.pending.awaits.toInt

theorem settle_texts (h : settle progress = .ok settled) : progress.texts = settled.request.path.isSome.toInt := by
  obtain ⟨request, rfl, hpath⟩ := settle_eq_ok h
  have hready : progress.pending.awaits = false := by
    have hnot := settle_not_awaiting h
    cases hpending : progress.pending with
    | awaiting slot => exact (hnot slot hpending).elim
    | _ => rfl
  rw [Progress.texts, hready, ← hpath]
  simp

theorem tallies_path : Tallies Progress.texts pathWeight := by
  intro text progress next h
  unfold pathWeight
  cases h with
  | path value hsettle htext hfree =>
    -- there was no path before, so none was settled
    have hnone := settle_texts hsettle
    obtain ⟨request, rfl, hpath⟩ := settle_eq_ok hsettle
    rw [hpath, hfree] at hnone
    rw [hnone]
    rcases htext with hended | hclass
    · simp [hended, Progress.texts, Progress.hasPath, Pending.awaits]
    · simp [hclass, Progress.texts, Progress.hasPath, Pending.awaits]
  | value hended hclass hpending =>
    rw [hclass, hended]
    simp [Progress.texts, hpending, Progress.hasPath, Pending.awaits]
  | endOfOptions hended hclass =>
    rw [hclass, hended]
    simp [Progress.texts, Progress.hasPath]
  | option hended hclass hsettle =>
    rw [settle_texts hsettle, hended, hclass]
    simp [Progress.texts, Progress.hasPath, Pending.awaits]
    rfl
  | attached hended hclass hsettle hstore =>
    rw [settle_texts hsettle, hended, hclass]
    simp [Progress.texts, Progress.hasPath, settled_pending hsettle, Pending.awaits, store_path hstore]
  | @flag settled raised hended hclass hsettle hraised =>
    rw [settle_texts hsettle, hended, hclass]
    simp [Progress.texts, Progress.hasPath, settled_pending hsettle, Pending.awaits]

/-- accepted arguments hold one text beside the values of their options if they have a path, and none otherwise -/
theorem path_of_parse (h : parse arguments = .ok request) :
    tally pathWeight false arguments = request.path.isSome.toInt := by
  obtain ⟨reading, hread, hfinal⟩ := bind_eq_ok.1 h
  obtain ⟨settled, hsettle, hrequest⟩ := bind_eq_ok.1 hfinal
  cases hrequest
  have htally := foldlM_tally tallies_path hread
  have hstart : Progress.texts {} = 0 := rfl
  rw [settle_texts (mapError_eq_ok.1 hsettle), hstart, zero_add] at htally
  exact htally.symm

/-! ## Help and the version -/

/-- a word that asks for help or for the version, where options are read -/
def askWeight (ended : Bool) (text : String) : Int :=
  (!ended && (classify text = .help || classify text = .version)).toInt

/-- accepted arguments ask for neither -/
theorem tallies_ask : Tallies (fun _ => 0) askWeight := by
  intro text progress next h
  unfold askWeight
  cases h with
  | path value hsettle htext _ => rcases htext with hended | hclass <;> simp [*]
  | value _ hclass _ => simp [hclass]
  | endOfOptions _ hclass => simp [hclass]
  | option _ hclass _ => simp [hclass]
  | attached _ hclass _ _ => simp [hclass]
  | flag _ hclass _ _ => simp [hclass]

theorem tally_ask_nonneg (ended : Bool) (arguments : List String) : 0 ≤ tally askWeight ended arguments := by
  induction arguments generalizing ended with
  | nil => exact le_refl 0
  | cons text rest ih =>
    have hweight : 0 ≤ askWeight ended text := by
      unfold askWeight
      cases (!ended && (classify text = .help || classify text = .version)) <;> decide
    exact add_nonneg hweight (ih _)

/-- what stops is refused: it does not ask for help or the version -/
def OnlyRefuses {α : Type} (result : Except Stop α) : Prop :=
  ∀ stop, result = .error stop → ∃ refusal, stop = .refused refusal

namespace OnlyRefuses

variable {α β : Type}

theorem ok (value : α) : OnlyRefuses (.ok value) := fun _ h => by cases h

theorem error (refusal : Refusal) : OnlyRefuses (.error (.refused refusal) : Except Stop α) := fun _ h => by
  cases h
  exact ⟨refusal, rfl⟩

theorem mapError (result : Except Refusal α) : OnlyRefuses (result.mapError .refused) := by
  cases result with
  | error refusal => exact error refusal
  | ok value => exact ok value

theorem bind {result : Except Stop α} {next : α → Except Stop β} (h : OnlyRefuses result)
    (hnext : ∀ value, OnlyRefuses (next value)) : OnlyRefuses (result >>= next) := by
  intro stop hstop
  rcases bind_eq_error.1 hstop with hfirst | ⟨value, -, hlast⟩
  · exact h stop hfirst
  · exact hnext value stop hlast

theorem takePath (progress : Progress) (text : String) : OnlyRefuses (takePath progress text) := by
  unfold Command.takePath
  split_ifs
  · exact error _
  · exact (mapError _).bind fun _ => ok _

/-- an argument that does not ask for help or the version is taken or refused -/
theorem take (hweight : askWeight progress.optionsEnded text = 0) : OnlyRefuses (take progress text) := by
  unfold Command.take
  unfold askWeight at hweight
  cases hended : progress.optionsEnded with
  | true => exact takePath progress text
  | false =>
    rw [hended] at hweight
    rw [if_neg Bool.false_ne_true]
    cases hclass : classify text with
    | plain value =>
      cases progress.pending with
      | awaiting slot => exact ok _
      | _ => exact takePath progress value
    | endOfOptions => exact ok _
    | refused refusal => exact error refusal
    | option slot attached =>
      refine (mapError _).bind fun settled => ?_
      cases attached with
      | none => exact ok _
      | some value => exact (mapError _).bind fun _ => ok _
    | flag raised => exact (mapError _).bind fun _ => (mapError _).bind fun _ => ok _
    | help => simp [hclass] at hweight
    | version => simp [hclass] at hweight

theorem foldlM (h : tally askWeight progress.optionsEnded arguments = 0) :
    OnlyRefuses (arguments.foldlM Command.take progress) := by
  induction arguments generalizing progress with
  | nil => exact ok progress
  | cons text rest ih =>
    have hfirst := tally_ask_nonneg progress.optionsEnded [text]
    have hrest := tally_ask_nonneg (progress.optionsEnded || classify text = .endOfOptions) rest
    simp only [tally, add_zero] at h hfirst
    rw [List.foldlM_cons]
    intro stop hstop
    rcases bind_eq_error.1 hstop with hstops | ⟨next, htake, hstops⟩
    · exact take (by omega) stop hstops
    · exact ih (by rw [(taken_of_take htake).optionsEnded_eq]; omega) stop hstops

/-- arguments that ask for neither help nor the version are accepted or refused -/
theorem parse (h : tally askWeight false arguments = 0) : OnlyRefuses (parse arguments) :=
  (foldlM h).bind fun _ => (mapError _).bind fun _ => ok _

end OnlyRefuses

/-! ## A word too many -/

theorem tally_insert (hbefore : "--" ∉ before) (hwords : "--" ∉ words) (after : List String) :
    tally weight false (before ++ words ++ after) =
      tally weight false (before ++ after) + tally weight false words := by
  rw [List.append_assoc, tally_append hbefore, tally_append hwords, tally_append hbefore]
  omega

/-- words that neither end the options nor ask for help or the version, and say something a request already has -/
structure Counted (request : Request) (words : List String) : Prop where
  goesOn : "--" ∉ words
  asks : tally askWeight false words = 0
  again : (∃ part, request.fills part = true ∧ tally (partWeight part) false words = 1) ∨
    request.path.isSome = true ∧ tally pathWeight false words = 1

/-- an option whose value is missing or looks like none is not counted, it is refused where it stands -/
theorem Excess.counted (h : Excess request words) : Counted request words ∨
    ∃ slot value, words = [Slot.name slot, value] ∧ ¬ Undashed value := by
  have hopen (text : String) (h : classify text ≠ .endOfOptions) : "--" ≠ text := fun heq =>
    h ((classify_end text).2 heq.symm)
  cases h with
  | @flag raised h =>
    have hclass := classify_flag raised
    exact .inl ⟨by simpa using hopen raised.name (by simp [hclass]), by simp [tally, askWeight, hclass],
      .inl ⟨.flag raised, h, by simp [tally, partWeight, hclass, Word.part?]⟩⟩
  | @attached slot value h =>
    have hclass := classify_attached slot value
    exact .inl ⟨by simpa using hopen (slot.name ++ "=" ++ value) (by simp [hclass]), by simp [tally, askWeight, hclass],
      .inl ⟨.slot slot, h, by simp [tally, partWeight, hclass, Word.part?]⟩⟩
  | @bare slot h =>
    have hclass : classify slot.name = .option slot none := classify_written slot none
    exact .inl ⟨by simpa using hopen slot.name (by simp [hclass]), by simp [tally, askWeight, hclass],
      .inl ⟨.slot slot, h, by simp [tally, partWeight, hclass, Word.part?]⟩⟩
  | @detached slot value h =>
    have hclass : classify slot.name = .option slot none := classify_written slot none
    by_cases hvalue : Undashed value
    · have hplain := classify_undashed hvalue
      exact .inl ⟨by simpa using ⟨hopen slot.name (by simp [hclass]), hopen value (by simp [hplain])⟩,
        by simp [tally, askWeight, hclass, hplain],
        .inl ⟨.slot slot, h, by simp [tally, partWeight, hclass, hplain, Word.part?]⟩⟩
    · -- the option does not take such a value, which may count for anything: no count decides
      exact .inr ⟨slot, value, rfl, hvalue⟩
  | @path text h htext =>
    have hplain := classify_undashed htext
    exact .inl ⟨by simpa using hopen text (by simp [hplain]), by simp [tally, askWeight, hplain],
      .inr ⟨h, by simp [tally, pathWeight, hplain]⟩⟩

/-- what is counted once more is not accepted -/
theorem parse_counted (hparse : parse (before ++ after) = .ok request) (hbefore : "--" ∉ before)
    (hwords : Counted request words) : ∃ refusal, parse (before ++ words ++ after) = .error (.refused refusal) := by
  obtain ⟨hopen, hask, hagain⟩ := hwords
  have hnone : tally askWeight false (before ++ after) = 0 := by
    obtain ⟨reading, hread, -⟩ := bind_eq_ok.1 hparse
    have htally : (0 : Int) = 0 + tally askWeight false (before ++ after) := foldlM_tally tallies_ask hread
    omega
  have hrefuses : OnlyRefuses (parse (before ++ words ++ after)) :=
    .parse (by rw [tally_insert hbefore hopen, hnone, hask]; rfl)
  cases hresult : parse (before ++ words ++ after) with
  | error stop =>
    obtain ⟨refusal, rfl⟩ := hrefuses stop hresult
    exact ⟨refusal, rfl⟩
  | ok other =>
    have hbound (b : Bool) : b.toInt ≤ 1 := by cases b <;> decide
    rcases hagain with ⟨part, hfills, htwice⟩ | ⟨hpath, htwice⟩
    · have hsecond := fills_of_parse hresult part
      rw [tally_insert hbefore hopen, fills_of_parse hparse, hfills, htwice] at hsecond
      have hmost := hbound (other.fills part)
      exact absurd hsecond (by simp; omega)
    · have hsecond := path_of_parse hresult
      rw [tally_insert hbefore hopen, path_of_parse hparse, hpath, htwice] at hsecond
      have hmost := hbound other.path.isSome
      exact absurd hsecond (by simp; omega)

/-! ## A value that looks like an option -/

theorem optionsEnded_of_read (hbefore : "--" ∉ before) (hended : progress.optionsEnded = false)
    (hread : before.foldlM take progress = .ok reading) : reading.optionsEnded = false := by
  induction before generalizing progress with
  | nil =>
    cases hread
    exact hended
  | cons text rest ih =>
    rw [List.foldlM_cons] at hread
    obtain ⟨next, hfirst, hread⟩ := bind_eq_ok.1 hread
    have hnext := (taken_of_take hfirst).optionsEnded_eq
    have hopen := goesOn_of_not_mem hbefore List.mem_cons_self
    rw [hended, decide_eq_false hopen] at hnext
    exact ih (fun hmem => hbefore (List.mem_cons_of_mem _ hmem)) hnext hread

/-- an option whose value is to come settles what was pending -/
theorem take_name (hended : progress.optionsEnded = false) (slot : Slot) : take progress slot.name =
    (settle progress).mapError .refused >>= fun settled => .ok { settled with pending := .awaiting slot } := by
  have hclass : classify slot.name = .option slot none := classify_written slot none
  unfold take
  rw [if_neg (by simp [hended]), hclass]

/-- an option that waits for its value does not take what looks like an option -/
theorem take_dashed {slot : Slot} (hended : progress.optionsEnded = false)
    (hpending : progress.pending = .awaiting slot) (htext : ¬ Undashed text) :
    (∃ refusal, take progress text = .error (.refused refusal)) ∨
      take progress text = .ok { progress with optionsEnded := true } := by
  have hsettle : settle progress = .error (.missingValue slot.shown) := by
    unfold settle
    rw [hpending]
  have hlooks := looks_classify text
  unfold take
  rw [if_neg (by simp [hended]), hsettle]
  cases hclass : classify text with
  | plain value =>
    rw [hclass] at hlooks
    cases hlooks with
    | undashed h => exact (htext h).elim
  | endOfOptions => exact .inr rfl
  | refused refusal => exact .inl ⟨refusal, rfl⟩
  | option slot attached => exact .inl ⟨_, rfl⟩
  | flag raised => exact .inl ⟨_, rfl⟩
  | help => exact .inl ⟨_, rfl⟩
  | version => exact .inl ⟨_, rfl⟩

/-- behind `--` an option waits for its value in vain -/
theorem foldlM_stuck {refusal : Refusal} (hended : progress.optionsEnded = true)
    (hsettle : settle progress = .error refusal) (after : List String) :
    (∃ other, after.foldlM take progress = .error (.refused other)) ∨ after.foldlM take progress = .ok progress := by
  cases after with
  | nil => exact .inr rfl
  | cons text rest =>
    refine .inl ?_
    rw [List.foldlM_cons]
    unfold take
    rw [if_pos hended]
    unfold takePath
    rw [hsettle]
    split_ifs
    · exact ⟨_, rfl⟩
    · exact ⟨refusal, rfl⟩

/-- an option in front of what looks like another is refused -/
theorem parse_dashed {slot : Slot} (hread : before.foldlM take {} = .ok progress)
    (hended : progress.optionsEnded = false) (htext : ¬ Undashed text) (after : List String) :
    ∃ refusal, parse (before ++ [slot.name, text] ++ after) = .error (.refused refusal) := by
  have hrest : (before ++ [slot.name, text] ++ after).foldlM take {} =
      take progress slot.name >>= fun next => take next text >>= fun later => after.foldlM take later := by
    rw [List.append_assoc, foldlM_append_of_ok hread]
    rfl
  rw [take_name hended slot] at hrest
  cases hsettle : settle progress with
  | error refusal =>
    rw [hsettle] at hrest
    exact ⟨refusal, parse_of_stop hrest⟩
  | ok settled =>
    obtain ⟨request, rfl, -⟩ := settle_eq_ok hsettle
    let waiting : Progress := { progress with request, pending := .awaiting slot }
    have hwaits : (before ++ [slot.name, text] ++ after).foldlM take {} =
        take waiting text >>= fun later => after.foldlM take later := by
      rw [hrest, hsettle]
      rfl
    -- the text is refused at once, or it is `--` and the value can no longer come
    rcases @take_dashed waiting text slot hended rfl htext with ⟨refusal, htake⟩ | htake
    · rw [htake] at hwaits
      exact ⟨refusal, parse_of_stop hwaits⟩
    · rw [htake] at hwaits
      have hmissing : settle { waiting with optionsEnded := true } = .error (.missingValue slot.shown) := rfl
      rcases foldlM_stuck rfl hmissing after with ⟨refusal, hafter⟩ | hafter
      · exact ⟨refusal, parse_of_stop (hwaits.trans hafter)⟩
      · refine ⟨.missingValue slot.shown, ?_⟩
        rw [parse_of_read (hwaits.trans hafter), hmissing]
        rfl

/-- **A word too many.** Arguments that are accepted are refused when a part that they give is given again, or a text is
put beside the path, anywhere in front of `--`. -/
theorem parse_excess (hparse : parse (before ++ after) = .ok request) (hbefore : "--" ∉ before)
    (hwords : Excess request words) : ∃ refusal, parse (before ++ words ++ after) = .error (.refused refusal) := by
  rcases hwords.counted with hcounted | ⟨slot, value, rfl, hvalue⟩
  · exact parse_counted hparse hbefore hcounted
  · obtain ⟨final, hread, -⟩ := bind_eq_ok.1 hparse
    rw [List.foldlM_append] at hread
    obtain ⟨progress, hfront, -⟩ := bind_eq_ok.1 hread
    exact parse_dashed hfront (optionsEnded_of_read hbefore rfl hfront) hvalue after

end BlockProbe.Command
