/-
An option put among the arguments.

An option that stands between two other arguments, and that is read there, changes the part of the request it fills and
nothing else: `Ahead` relates the reading of the arguments with it and without it. What is pending in front of it is
settled earlier than it would be.

- `take_ahead`: one argument behind the option leaves the two readings related.
- `parse_insert`: the option changes its part of the request.
- `parse_insert_flag`, `parse_insert_level`: the flags, and the level of the log.
-/
import BlockProbe.Proofs.Command.Reading

namespace BlockProbe.Command

/-- the parts of a request that options and flags fill -/
inductive Part where
  | slot (slot : Slot)
  | flag (raised : Flag)
deriving DecidableEq, Repr

/-- the part of the request that an argument speaks of -/
def Word.part? : Word → Option Part
  | .option slot _ => some (.slot slot)
  | .flag raised => some (.flag raised)
  | _ => none

/-- the part of the request that waits to be filled -/
def Pending.part? : Pending → Option Part
  | .awaiting slot => some (.slot slot)
  | .given slot _ => some (.slot slot)
  | _ => none

/-- no option among the arguments speaks of the part -/
def Spares (part : Part) : List String → Prop
  | [] => True
  | text :: rest => classify text = .endOfOptions ∨ (classify text).part? ≠ some part ∧ Spares part rest

instance Spares.decidable (part : Part) : (arguments : List String) → Decidable (Spares part arguments)
  | [] => .isTrue trivial
  | text :: rest =>
    have := Spares.decidable part rest
    inferInstanceAs (Decidable (classify text = .endOfOptions ∨
      (classify text).part? ≠ some part ∧ Spares part rest))

/-- a change of one part of a request, which whatever fills another part does not notice -/
structure Changes (part : Part) (change : Request → Request) : Prop where
  path : ∀ request, (change request).path = request.path
  withPath : ∀ request path, change { request with path } = { change request with path }
  store : ∀ request slot value, part ≠ .slot slot →
    store (change request) slot value = (store request slot value).map change
  raise : ∀ request flag, part ≠ .flag flag → raise (change request) flag = (raise request flag).map change

theorem changes_flag (flag : Flag) : Changes (.flag flag) fun request => request.raised flag := by
  refine ⟨fun request => raised_path request flag, fun _ _ => by cases flag <;> rfl, ?_, ?_⟩
  · intro request slot value _
    cases slot with
    | interval =>
      have hinterval : (request.raised flag).interval = request.interval := by cases flag <;> rfl
      unfold store
      dsimp only
      rw [hinterval]
      cases request.interval with
      | some _ => rfl
      | none => cases Decimal.readUnsigned value <;> cases flag <;> rfl
    | level =>
      have hlevel : (request.raised flag).level = request.level := by cases flag <;> rfl
      unfold store
      dsimp only
      rw [hlevel]
      cases request.level with
      | some _ => rfl
      | none => cases Level.parse value <;> cases flag <;> rfl
  · intro request other hother
    have hne : (flag == other) = false := by
      rw [beq_eq_false_iff_ne]
      rintro rfl
      exact hother rfl
    rw [raise_eq, raise_eq, raised_isRaised, hne, Bool.false_or, raised_comm]
    cases request.isRaised other <;> rfl

theorem changes_level (level : Option Level) : Changes (.slot .level) fun request => { request with level } := by
  refine ⟨fun _ => rfl, fun _ _ => rfl, ?_, ?_⟩
  · intro request slot value hslot
    cases slot with
    | level => exact (hslot rfl).elim
    | interval =>
      unfold store
      cases request.interval with
      | some _ => rfl
      | none => cases Decimal.readUnsigned value <;> rfl
  · intro request flag _
    cases flag with
    | noVerify => unfold raise; cases request.noVerify <;> rfl
    | sync => unfold raise; cases request.sync <;> rfl
    | once => unfold raise; cases request.once <;> rfl

/-- the arguments read so far, with another request -/
def Progress.changed (progress : Progress) (change : Request → Request) : Progress :=
  { progress with request := change progress.request }

/-- two readings of arguments, the second of which has met the option: either has settled or can settle what was pending
in front of it, or the same is pending in both -/
inductive Ahead (part : Part) (change : Request → Request) (without reading : Progress) : Prop
  | settled {progress : Progress} (hwithout : settle without = .ok progress)
    (hreading : settle reading = .ok (progress.changed change))
  | along (hpending : without.pending.part? ≠ some part) (hreading : reading = without.changed change)

/-- two readings that stop alike or go on side by side -/
inductive Follows (part : Part) (change : Request → Request) : Except Stop Progress → Except Stop Progress → Prop
  | stopped (stop : Stop) : Follows part change (.error stop) (.error stop)
  | ahead {without reading : Progress} (h : Ahead part change without reading) :
    Follows part change (.ok without) (.ok reading)

theorem Follows.inv {part : Part} {change : Request → Request} {first second : Except Stop Progress}
    (h : Follows part change first second) :
    (∃ stop, first = .error stop ∧ second = .error stop) ∨
      ∃ without reading, first = .ok without ∧ second = .ok reading ∧ Ahead part change without reading := by
  cases h with
  | stopped stop => exact .inl ⟨stop, rfl, rfl⟩
  | ahead h => exact .inr ⟨_, _, rfl, rfl, h⟩

variable {part : Part} {change : Request → Request} {progress without reading : Progress} {text : String}

/-! ## One argument -/

/-- what is pending for another part is settled in the same way -/
theorem settle_changed (hchanges : Changes part change) (hpart : progress.pending.part? ≠ some part) :
    settle (progress.changed change) = (settle progress).map fun settled => settled.changed change := by
  obtain ⟨request, pending, optionsEnded⟩ := progress
  unfold settle Progress.changed
  cases pending with
  | nothing => rfl
  | awaiting slot => rfl
  | given slot value =>
    have hslot : part ≠ .slot slot := by
      rintro rfl
      exact hpart rfl
    dsimp only
    rw [hchanges.store _ _ _ hslot]
    cases store request slot value <;> rfl
  | path value =>
    dsimp only
    rw [← hchanges.withPath]
    cases value.isEmpty <;> rfl

/-- whether the option was met or not, settling comes to the same but for the change -/
theorem Ahead.settles (hchanges : Changes part change) (h : Ahead part change without reading) :
    settle reading = (settle without).map fun settled => settled.changed change := by
  cases h with
  | settled hwithout hreading => rw [hwithout, hreading]; rfl
  | along hpending hreading => rw [hreading, settle_changed hchanges hpending]

theorem Ahead.hasPath (hchanges : Changes part change) (h : Ahead part change without reading) :
    reading.hasPath = without.hasPath := by
  cases h with
  | settled hwithout hreading =>
    obtain ⟨request, rfl, hpath⟩ := settle_eq_ok hwithout
    obtain ⟨other, heq, hother⟩ := settle_eq_ok hreading
    have hrequest : change request = other := congrArg Progress.request heq
    rw [← hother, ← hpath, ← hrequest, hchanges.path]
  | along hpending hreading =>
    subst hreading
    unfold Progress.hasPath Progress.changed
    rw [hchanges.path]

theorem Ahead.optionsEnded (h : Ahead part change without reading) :
    reading.optionsEnded = without.optionsEnded := by
  cases h with
  | settled hwithout hreading =>
    obtain ⟨request, rfl, -⟩ := settle_eq_ok hwithout
    obtain ⟨other, heq, -⟩ := settle_eq_ok hreading
    exact (congrArg Progress.optionsEnded heq).symm
  | along hpending hreading => rw [hreading]; rfl

/-- the readings go on alike from what they settle to -/
theorem Ahead.follows (hchanges : Changes part change) (h : Ahead part change without reading)
    {next : Progress → Except Stop Progress}
    (hnext : ∀ settled : Progress, settled.pending = .nothing →
      Follows part change (next settled) (next (settled.changed change))) :
    Follows part change ((settle without).mapError .refused >>= next)
      ((settle reading).mapError .refused >>= next) := by
  rw [h.settles hchanges]
  cases hsettle : settle without with
  | error refusal => exact .stopped _
  | ok settled =>
    obtain ⟨request, rfl, -⟩ := settle_eq_ok hsettle
    exact hnext _ rfl

theorem takePath_ahead (hchanges : Changes part change) (h : Ahead part change without reading) (text : String) :
    Follows part change (takePath without text) (takePath reading text) := by
  unfold takePath
  rw [h.hasPath hchanges]
  cases without.hasPath with
  | true => exact .stopped _
  | false => exact h.follows hchanges fun settled _ => .ahead (.along (by simp [Pending.part?]) rfl)

theorem takePlain_ahead (hchanges : Changes part change) (h : Ahead part change without reading)
    (hended : without.optionsEnded = false) {value : String} (htext : classify text = .plain value) :
    Follows part change (take without text) (take reading text) := by
  have hreadingEnded : reading.optionsEnded = false := by rw [h.optionsEnded, hended]
  by_cases hawaits : ∃ slot, without.pending = .awaiting slot
  · obtain ⟨slot, hawaits⟩ := hawaits
    cases h with
    | settled hwithout _ => exact (settle_not_awaiting hwithout slot hawaits).elim
    | along hpending hreading =>
      subst hreading
      rw [take_awaited hended htext hawaits, take_awaited hreadingEnded htext hawaits]
      rw [hawaits] at hpending
      exact .ahead (.along hpending rfl)
  · have hwithout : ∀ slot, without.pending ≠ .awaiting slot := fun slot heq => hawaits ⟨slot, heq⟩
    have hreading : ∀ slot, reading.pending ≠ .awaiting slot := by
      cases h with
      | settled _ hreading => exact settle_not_awaiting hreading
      | along _ hreading => subst hreading; exact hwithout
    rw [take_plain hended htext hwithout, take_plain hreadingEnded htext hreading]
    exact takePath_ahead hchanges h value

theorem takeEnd_ahead (h : Ahead part change without reading) (hended : without.optionsEnded = false)
    (htext : classify text = .endOfOptions) : Follows part change (take without text) (take reading text) := by
  rw [take_endOfOptions hended htext, take_endOfOptions (by rw [h.optionsEnded, hended]) htext]
  cases h with
  | settled hwithout hreading =>
    exact .ahead (.settled (by rw [settle_ended, hwithout]; rfl) (by rw [settle_ended, hreading]; rfl))
  | along hpending hreading => exact .ahead (.along hpending (by rw [hreading]; rfl))

/-- **One argument more.** An argument that speaks of another part leaves the two readings related, or stops both. -/
theorem take_ahead (hchanges : Changes part change) (h : Ahead part change without reading)
    (htext : without.optionsEnded = false → (classify text).part? ≠ some part) :
    Follows part change (take without text) (take reading text) := by
  cases hended : without.optionsEnded with
  | true =>
    have hreading : reading.optionsEnded = true := by rw [h.optionsEnded, hended]
    unfold take
    rw [if_pos hended, if_pos hreading]
    exact takePath_ahead hchanges h text
  | false =>
    have hpart := htext hended
    have hreading : reading.optionsEnded = false := by rw [h.optionsEnded, hended]
    cases hclass : classify text with
    | plain value => exact takePlain_ahead hchanges h hended hclass
    | endOfOptions => exact takeEnd_ahead h hended hclass
    | refused refusal =>
      unfold take
      rw [hended, hreading, hclass]
      exact .stopped _
    | option slot attached =>
      have hslot : part ≠ .slot slot := by
        rintro rfl
        exact hpart (by rw [hclass]; rfl)
      unfold take
      rw [hended, hreading, hclass]
      refine h.follows hchanges fun settled hpending => ?_
      cases attached with
      | none => exact .ahead (.along (fun heq => hslot (Option.some.inj heq).symm) rfl)
      | some value =>
        dsimp only [Progress.changed]
        rw [hchanges.store _ _ _ hslot]
        cases store settled.request slot value with
        | error refusal => exact .stopped _
        | ok request => exact .ahead (.along (by simp [hpending, Pending.part?]) rfl)
    | flag raised =>
      have hraised : part ≠ .flag raised := by
        rintro rfl
        exact hpart (by rw [hclass]; rfl)
      unfold take
      rw [hended, hreading, hclass]
      refine h.follows hchanges fun settled hpending => ?_
      dsimp only [Progress.changed]
      rw [hchanges.raise _ _ hraised]
      cases raise settled.request raised with
      | error refusal => exact .stopped _
      | ok request => exact .ahead (.along (by simp [hpending, Pending.part?]) rfl)
    | help =>
      unfold take
      rw [hended, hreading, hclass]
      exact h.follows hchanges fun _ _ => .stopped _
    | version =>
      unfold take
      rw [hended, hreading, hclass]
      exact h.follows hchanges fun _ _ => .stopped _

/-- what an argument leaves to spare of those behind it -/
theorem Taken.spares {next : Progress} {rest : List String} (h : Taken text progress next)
    (hspares : progress.optionsEnded = true ∨ Spares part (text :: rest)) :
    next.optionsEnded = true ∨ Spares part rest := by
  rcases hspares with hended | hend | ⟨-, hrest⟩
  · exact .inl (h.optionsEnded.2 (.inl hended))
  · exact .inl (h.optionsEnded.2 (.inr hend))
  · exact .inr hrest

/-! ## The whole command line -/

/-- the arguments behind the option, read with it and without it -/
theorem foldlM_ahead (hchanges : Changes part change) {after : List String}
    (hafter : without.optionsEnded = true ∨ Spares part after) (h : Ahead part change without reading) :
    Follows part change (after.foldlM take without) (after.foldlM take reading) := by
  induction after generalizing without reading with
  | nil => exact .ahead h
  | cons text rest ih =>
    have htext : without.optionsEnded = false → (classify text).part? ≠ some part := by
      intro hended
      rcases hafter with htrue | hend | ⟨hpart, -⟩
      · rw [hended] at htrue; cases htrue
      · rw [hend]; simp [Word.part?]
      · exact hpart
    rw [List.foldlM_cons, List.foldlM_cons]
    rcases (take_ahead hchanges h htext).inv with ⟨stop, hfirst, hsecond⟩ | ⟨next, other, hfirst, hsecond, hnext⟩
    · rw [hfirst, hsecond]
      exact .stopped stop
    · rw [hfirst, hsecond]
      exact ih ((taken_of_take hfirst).spares hafter) hnext

/-- **An option put among the arguments** changes the part of the request it fills, and nothing else about what the
arguments come to. -/
theorem parse_insert (hchanges : Changes part change) {before words after : List String}
    (hbefore : before.foldlM take {} = .ok without) (hwords : words.foldlM take without = .ok reading)
    (h : Ahead part change without reading) (hafter : Spares part after) :
    parse (before ++ words ++ after) = (parse (before ++ after)).map change := by
  have hwithout := foldlM_append_of_ok hbefore after
  have hreading : (before ++ words ++ after).foldlM take {} = after.foldlM take reading := by
    rw [List.append_assoc, foldlM_append_of_ok hbefore, foldlM_append_of_ok hwords]
  have hfolded := (foldlM_ahead hchanges (.inr hafter) h).inv
  rcases hfolded with ⟨stop, hfirst, hsecond⟩ | ⟨next, other, hfirst, hsecond, hnext⟩
  · rw [parse_of_stop (hwithout.trans hfirst), parse_of_stop (hreading.trans hsecond)]
    rfl
  · rw [parse_of_read (hwithout.trans hfirst), parse_of_read (hreading.trans hsecond), hnext.settles hchanges]
    cases settle next <;> rfl

/-! ## A flag -/

theorem Word.part?_eq_flag {word : Word} {flag : Flag} : word.part? = some (.flag flag) ↔ word = .flag flag := by
  cases word <;> simp [Word.part?]

/-- where a flag is not raised in the end, no argument raised it -/
theorem spares_of_not_raised {flag : Flag} {arguments : List String} (h : arguments.foldlM take progress = .ok reading)
    (hnot : reading.request.isRaised flag = false) :
    progress.request.isRaised flag = false ∧ (progress.optionsEnded = true ∨ Spares (.flag flag) arguments) := by
  induction arguments generalizing progress with
  | nil =>
    cases h
    exact ⟨hnot, .inr trivial⟩
  | cons text rest ih =>
    rw [List.foldlM_cons] at h
    obtain ⟨next, hfirst, h⟩ := bind_eq_ok.1 h
    have htaken := taken_of_take hfirst
    obtain ⟨hnext, hrest⟩ := ih h
    have hearlier : ¬ (progress.request.isRaised flag = true ∨
        progress.optionsEnded = false ∧ classify text = .flag flag) := by
      intro hraised
      rw [htaken.isRaised hraised] at hnext
      cases hnext
    refine ⟨Bool.eq_false_iff.2 fun hraised => hearlier (.inl hraised), ?_⟩
    cases hended : progress.optionsEnded with
    | true => exact .inl rfl
    | false =>
      have hpart : (classify text).part? ≠ some (.flag flag) := fun hpart =>
        hearlier (.inr ⟨hended, Word.part?_eq_flag.1 hpart⟩)
      rcases hrest with hnextEnded | hspares
      · rcases htaken.optionsEnded.1 hnextEnded with htrue | hend
        · rw [hended] at htrue; cases htrue
        · exact .inr (.inl hend)
      · exact .inr (.inr ⟨hpart, hspares⟩)

/-- **A flag put among the arguments is raised**, if they do not raise it elsewhere. -/
theorem parse_insert_flag {before after : List String} (hplace : Between before) {request : Request}
    (h : parse (before ++ after) = .ok request) {flag : Flag} (hflag : request.isRaised flag = false) :
    parse (before ++ flag.name :: after) = .ok (request.raised flag) := by
  obtain ⟨final, hread, hfinal⟩ := bind_eq_ok.1 h
  rw [List.foldlM_append] at hread
  obtain ⟨progress, hbefore, hafter⟩ := bind_eq_ok.1 hread
  obtain ⟨settled, hsettle, hrequest⟩ := bind_eq_ok.1 hfinal
  cases hrequest
  rw [settle_isRaised (mapError_eq_ok.1 hsettle)] at hflag
  obtain ⟨hnot, hspares⟩ := spares_of_not_raised hafter hflag
  have hended := (hplace progress hbefore).1
  have hafterSpares : Spares (.flag flag) after := by
    rcases hspares with htrue | hspares
    · rw [hended] at htrue; cases htrue
    · exact hspares
  cases hfront : settle progress with
  | error refusal =>
    obtain ⟨other, hrefused⟩ := parse_of_faultPending hplace ⟨progress, refusal, hbefore, hfront⟩ after
    rw [h] at hrefused
    cases hrefused
  | ok front =>
    have hraised : front.request.isRaised flag = false := by rw [settle_isRaised hfront, hnot]
    have htake : take progress flag.name = .ok (front.changed fun request => request.raised flag) := by
      unfold take
      rw [hended, classify_flag, hfront]
      show (raise front.request flag).mapError Stop.refused >>= _ = _
      rw [raise_eq, hraised]
      rfl
    have hahead : Ahead (.flag flag) (fun request => request.raised flag) progress
        (front.changed fun request => request.raised flag) := by
      obtain ⟨_, rfl, -⟩ := settle_eq_ok hfront
      exact .settled hfront (settle_of_nothing rfl)
    have hwords : [flag.name].foldlM take progress = .ok (front.changed fun request => request.raised flag) := by
      rw [List.foldlM_cons, htake]
      rfl
    have hinsert := parse_insert (changes_flag flag) hbefore hwords hahead hafterSpares
    rw [List.append_assoc] at hinsert
    exact hinsert.trans (by rw [h]; rfl)

/-! ## The level -/

/-- the ways to write a level among the arguments, or not to -/
inductive LevelWords : Option Level → List String → Prop
  | absent : LevelWords none []
  | detached {word : String} {level : Level} (hword : Level.parse word = .ok level) :
    LevelWords (some level) ["--log-level", word]
  | attached {word : String} {level : Level} (hword : Level.parse word = .ok level) :
    LevelWords (some level) ["--log-level=" ++ word]

/-- a place among arguments that give no level, at which an option can stand -/
structure TakesLevel (before after : List String) : Prop where
  place : Between before
  before : Spares (.slot .level) before
  after : Spares (.slot .level) after

theorem classify_of_head {text : String} (h : text.toList.head? ≠ some '-') : classify text = .plain text := by
  unfold classify
  split <;> simp_all

/-- no level begins with a dash -/
theorem classify_level {word : String} {level : Level} (h : Level.parse word = .ok level) :
    classify word = .plain word := by
  refine classify_of_head fun hdash => ?_
  have hlower : word.toLower.toList.head? = some '-' := by
    show (word.map Char.toLower).toList.head? = some '-'
    rw [String.toList_map, List.head?_map, hdash]
    rfl
  unfold Level.parse at h
  split at h <;> rename_i heq
  all_goals first | (rw [heq] at hlower; exact absurd hlower (by decide)) | cases h

theorem classify_logLevel : classify "--log-level" = .option .level none := by cbv

theorem toList_attached (slot : Slot) (value : String) :
    (slot.name ++ "=" ++ value).toList = slot.name.toList ++ '=' :: value.toList := by
  simp [String.toList_append]

/-- the name of an option ends in front of the value attached to it -/
theorem splitAttached_option (slot : Slot) (value : String) :
    splitAttached (slot.name ++ "=" ++ value) = (slot.name, some value) := by
  have hname : ∀ c ∈ slot.name.toList, (c != '=') = true := by cases slot <;> simp [Slot.name]
  have htaken : (slot.name.toList ++ '=' :: value.toList).takeWhile (· != '=') = slot.name.toList := by
    rw [List.takeWhile_append_of_pos hname]
    simp
  unfold splitAttached
  simp only [toList_attached, htaken, List.drop_left, String.ofList_toList]

theorem classify_attached (slot : Slot) (value : String) :
    classify (slot.name ++ "=" ++ value) = .option slot (some value) := by
  have hlong : classify (slot.name ++ "=" ++ value) = longWord (slot.name ++ "=" ++ value) := by
    unfold classify
    rw [toList_attached]
    cases slot <;> rfl
  rw [hlong]
  unfold longWord
  rw [splitAttached_option]
  cases slot <;> rfl

theorem classify_logLevel_attached (word : String) :
    classify ("--log-level=" ++ word) = .option .level (some word) := by
  have hlead : "--log-level=" = Slot.level.name ++ "=" := by decide
  rw [hlead]
  exact classify_attached .level word

/-- a reading that has met no level -/
structure NoLevel (progress : Progress) : Prop where
  request : progress.request.level = none
  pending : progress.pending.part? ≠ some (.slot .level)

theorem settle_noLevel (h : NoLevel without) (hsettle : settle without = .ok progress) : NoLevel progress := by
  cases settled_of_settle hsettle with
  | nothing _ => exact h
  | given hpending hstore =>
    rcases store_eq_ok hstore with ⟨_, -, -, -, rfl⟩ | ⟨_, rfl, -, -, -⟩
    · exact ⟨h.request, by simp [Pending.part?]⟩
    · exact (h.pending (by rw [hpending]; rfl)).elim
  | path _ _ => exact ⟨h.request, by simp [Pending.part?]⟩

theorem Taken.noLevel {next : Progress} (h : Taken text progress next) (hnone : NoLevel progress)
    (htext : progress.optionsEnded = true ∨ (classify text).part? ≠ some (.slot .level)) : NoLevel next := by
  cases h with
  | path value hsettle _ => exact ⟨(settle_noLevel hnone hsettle).request, by simp [Pending.part?]⟩
  | value _ _ hpending =>
    have hpart := hnone.pending
    rw [hpending] at hpart
    exact ⟨hnone.request, hpart⟩
  | endOfOptions _ _ => exact ⟨hnone.request, hnone.pending⟩
  | option hended hclass hsettle =>
    rw [hended, hclass] at htext
    exact ⟨(settle_noLevel hnone hsettle).request, htext.resolve_left (by simp)⟩
  | attached hended hclass hsettle hstore =>
    rw [hended, hclass] at htext
    have hsettled := settle_noLevel hnone hsettle
    rcases store_eq_ok hstore with ⟨_, -, -, -, rfl⟩ | ⟨_, rfl, -, -, -⟩
    · exact ⟨hsettled.request, hsettled.pending⟩
    · exact (htext.resolve_left (by simp) rfl).elim
  | @flag settled raised hended hclass hsettle _ =>
    have hsettled := settle_noLevel hnone hsettle
    have hlevel : (settled.request.raised raised).level = settled.request.level := by cases raised <;> rfl
    exact ⟨hlevel.trans hsettled.request, hsettled.pending⟩

/-- behind arguments that give no level none is met -/
theorem noLevel_of_spares {arguments : List String} (hnone : NoLevel progress)
    (hspares : progress.optionsEnded = true ∨ Spares (.slot .level) arguments)
    (h : arguments.foldlM take progress = .ok reading) : NoLevel reading := by
  induction arguments generalizing progress with
  | nil => cases h; exact hnone
  | cons text rest ih =>
    rw [List.foldlM_cons] at h
    obtain ⟨next, hfirst, h⟩ := bind_eq_ok.1 h
    have htaken := taken_of_take hfirst
    refine ih (htaken.noLevel hnone ?_) (htaken.spares hspares) h
    rcases hspares with hended | hend | ⟨hpart, -⟩
    · exact .inl hended
    · exact .inr (by simp [hend, Word.part?])
    · exact .inr hpart

theorem noLevel_start : NoLevel {} := ⟨rfl, by simp [Pending.part?]⟩

theorem store_level {request : Request} (hlevel : request.level = none) {word : String} {level : Level}
    (hword : Level.parse word = .ok level) :
    store request .level word = .ok { request with level := some level } := by
  unfold store
  simp only [hlevel, Option.isSome_none, Bool.false_eq_true, if_false, hword]

/-- a level is read where an option can stand -/
theorem foldlM_levelWords {words : List String} {level : Level} (hwords : LevelWords (some level) words)
    (hended : progress.optionsEnded = false) {settled : Progress} (hsettle : settle progress = .ok settled)
    (hlevel : settled.request.level = none) :
    ∃ reading, words.foldlM take progress = .ok reading ∧
      settle reading = .ok (settled.changed fun request => { request with level := some level }) := by
  obtain ⟨request, rfl, -⟩ := settle_eq_ok hsettle
  cases hwords with
  | @detached word _ hword =>
    have hfirst : take progress "--log-level" = .ok { progress with request, pending := .awaiting .level } := by
      unfold take
      rw [if_neg (by simp [hended]), classify_logLevel, hsettle]
      rfl
    have hsecond : take { progress with request, pending := .awaiting .level } word =
        .ok { progress with request, pending := .given .level word } :=
      take_awaited hended (classify_level hword) rfl
    refine ⟨{ progress with request, pending := .given .level word }, ?_, ?_⟩
    · rw [List.foldlM_cons, hfirst]
      show ([word].foldlM take _) = _
      rw [List.foldlM_cons, hsecond]
      rfl
    · unfold settle
      dsimp only
      rw [store_level hlevel hword]
      rfl
  | @attached word _ hword =>
    refine ⟨_, ?_, settle_of_nothing rfl⟩
    rw [List.foldlM_cons]
    unfold take
    rw [if_neg (by simp [hended]), classify_logLevel_attached, hsettle]
    show ((store request .level word).mapError Stop.refused >>= _) >>= _ = _
    rw [store_level hlevel hword]
    rfl

/-- the arguments without the words give no level -/
theorem level_of_parse {before after : List String} (h : TakesLevel before after) {request : Request}
    (hparse : parse (before ++ after) = .ok request) : request.level = none := by
  obtain ⟨final, hread, hfinal⟩ := bind_eq_ok.1 hparse
  rw [List.foldlM_append] at hread
  obtain ⟨progress, hbefore, hafter⟩ := bind_eq_ok.1 hread
  obtain ⟨settled, hsettle, hrequest⟩ := bind_eq_ok.1 hfinal
  cases hrequest
  have hmiddle := noLevel_of_spares noLevel_start (.inr h.before) hbefore
  have hend := noLevel_of_spares hmiddle (.inr h.after) hafter
  exact (settle_noLevel hend (mapError_eq_ok.1 hsettle)).request

/-- **A level put among the arguments** is the request's level, unless the argument in front of it is at fault. -/
theorem parse_insert_level {before after words : List String} {level : Option Level} (h : TakesLevel before after)
    (hwords : LevelWords level words) (hfault : ¬ FaultPending before) :
    parse (before ++ words ++ after) = (parse (before ++ after)).map fun request => { request with level } := by
  cases hread : before.foldlM take {} with
  | error stop =>
    have hstop (more : List String) : (before ++ more).foldlM take {} = .error stop := by
      rw [List.foldlM_append, hread]
      rfl
    rw [List.append_assoc, parse_of_stop (hstop _), parse_of_stop (hstop _)]
    rfl
  | ok progress =>
    cases hsettle : settle progress with
    | error refusal => exact (hfault ⟨progress, refusal, hread, hsettle⟩).elim
    | ok settled =>
      cases level with
      | none =>
        cases hwords
        rw [List.append_nil]
        cases hparse : parse (before ++ after) with
        | error stop => rfl
        | ok request =>
          have hlevel := level_of_parse h hparse
          obtain ⟨path, interval, noVerify, sync, level, once⟩ := request
          cases hlevel
          rfl
      | some level =>
        have hnone := settle_noLevel (noLevel_of_spares noLevel_start (.inr h.before) hread) hsettle
        obtain ⟨reading, hwordsRead, hreading⟩ :=
          foldlM_levelWords hwords (h.place progress hread).1 hsettle hnone.request
        exact parse_insert (changes_level (some level)) hread hwordsRead (.settled hsettle hreading) h.after

/-- behind an argument at fault a level makes the reading complain of that argument -/
theorem parse_level_of_fault {before after words : List String} {level : Level} {refusal : Refusal}
    (hwords : LevelWords (some level) words) (hbefore : before.foldlM take {} = .ok progress)
    (hended : progress.optionsEnded = false) (hfault : settle progress = .error refusal) :
    parse (before ++ words ++ after) = .error (.refused refusal) := by
  have hread (word : String) (attached : Option String) (rest : List String)
      (hclass : classify word = .option .level attached) :
      (before ++ (word :: rest) ++ after).foldlM take {} = .error (.refused refusal) := by
    have htake : take progress word = .error (.refused refusal) := by
      unfold take
      rw [if_neg (by simp [hended]), hclass, hfault]
      rfl
    rw [List.append_assoc, foldlM_append_of_ok hbefore, List.cons_append, List.foldlM_cons, htake]
    rfl
  cases hwords with
  | detached hword => exact parse_of_stop (hread _ none _ classify_logLevel)
  | attached hword => exact parse_of_stop (hread _ _ _ (classify_logLevel_attached _))

end BlockProbe.Command
