/-
The arguments that spell a request.

What a request asks for can be said in any order, an option with its value behind it or attached to it, the interval and
the level in any of their spellings, and the path between the others or behind `--`. Arguments spell the request that
they are read as, and no others are accepted, so neither their order nor their spelling matters to a run.

- `said_append`: what is said last, and what is said of the rest of the request.
- `store_iff`, `raise_iff`: an argument is taken for what it says.
- `parse_iff`: the arguments that are read as a request are those that spell it.
- `spelled_alike`: one request, one run; and nothing can be said twice.
-/
import BlockProbe.Proofs.Command.Interrupted
import BlockProbe.Proofs.Command.Tally

namespace BlockProbe.Command

open BlockProbe.Settings

/-- what can be said of a request: its path, or one of the parts that options fill -/
inductive Subject where
  | path
  | part (part : Part)
deriving DecidableEq, Repr

/-- one thing that arguments say -/
inductive Saying where
  | path (text : String)
  /-- an option, and its value in the argument behind it -/
  | detached (slot : Slot) (text : String)
  /-- an option with its value attached -/
  | attached (slot : Slot) (text : String)
  | flag (raised : Flag)
deriving DecidableEq, Repr

/-- what is said something of -/
def Saying.subject : Saying → Subject
  | .path _ => .path
  | .detached slot _ => .part (.slot slot)
  | .attached slot _ => .part (.slot slot)
  | .flag raised => .part (.flag raised)

/-- the arguments that say it -/
def Saying.words : Saying → List String
  | .path text => [text]
  | .detached slot text => [slot.name, text]
  | .attached slot text => [slot.name ++ "=" ++ text]
  | .flag raised => [raised.name]

/-- does the request ask for it? -/
def Request.asksFor (request : Request) : Subject → Bool
  | .path => request.path.isSome
  | .part part => request.fills part

/-- the text spells the value that the request has for the option -/
def Request.Reads (request : Request) (text : String) : Slot → Prop
  | .interval => ∃ secs, request.interval = some secs ∧ Decimal.Numeral text secs.toNat
  | .level => ∃ level, request.level = some level ∧ SpellsLevel text level

/-- what is said is so -/
def Saying.Holds (request : Request) : Saying → Prop
  | .path text => request.path = some text ∧ text ≠ "" ∧ Undashed text
  | .detached slot text => request.Reads text slot
  | .attached slot text => request.Reads text slot
  | .flag raised => request.isRaised raised = true

/-- everything that the request asks for is said, once -/
structure Said (request : Request) (sayings : List Saying) : Prop where
  holds : ∀ saying ∈ sayings, saying.Holds request
  once : (sayings.map Saying.subject).Nodup
  all : ∀ subject, request.asksFor subject = true → subject ∈ sayings.map Saying.subject

/-- the arguments that say one thing after another -/
def spelled (sayings : List Saying) : List String := sayings.flatMap Saying.words

/-- the arguments spell the request: everything is said in any order, and `--` may end the options, with the path said
in front of it, or behind it and then in any letters -/
inductive Spells (request : Request) : List String → Prop
  | plainly {sayings : List Saying} (h : Said request sayings) : Spells request (spelled sayings)
  | closed {sayings : List Saying} (h : Said request sayings) : Spells request (spelled sayings ++ ["--"])
  | behind {sayings : List Saying} {path : String} (hpath : request.path = some path) (hvalue : path ≠ "")
    (h : Said { request with path := none } sayings) : Spells request (spelled sayings ++ ["--", path])

/-- the request without what it asks for there -/
def Request.without (request : Request) : Subject → Request
  | .path => { request with path := none }
  | .part (.slot .interval) => { request with interval := none }
  | .part (.slot .level) => { request with level := none }
  | .part (.flag .noVerify) => { request with noVerify := false }
  | .part (.flag .sync) => { request with sync := false }
  | .part (.flag .once) => { request with once := false }

variable {request next : Request} {sayings : List Saying} {saying : Saying} {subject : Subject}
  {progress settled reading : Progress} {text : String} {slot : Slot} {raised : Flag} {words arguments : List String}

/-! ## What is said -/

theorem asksFor_without (request : Request) (subject other : Subject) :
    (request.without subject).asksFor other = (decide (other ≠ subject) && request.asksFor other) := by
  rcases subject with _ | ((_ | _) | (_ | _ | _)) <;> rcases other with _ | ((_ | _) | (_ | _ | _)) <;> rfl

/-- what is said of the rest does not depend on it -/
theorem Saying.holds_without (h : saying.subject ≠ subject) :
    saying.Holds (request.without subject) ↔ saying.Holds request := by
  rcases subject with _ | ((_ | _) | (_ | _ | _)) <;>
    rcases saying with _ | ⟨_ | _, _⟩ | ⟨_ | _, _⟩ | (_ | _ | _) <;>
    first | exact (h rfl).elim | exact Iff.rfl

theorem Saying.Holds.asksFor (h : saying.Holds request) : request.asksFor saying.subject = true := by
  have hreads {text : String} {slot : Slot} (h : request.Reads text slot) : request.gives slot = true := by
    cases slot with
    | interval =>
      obtain ⟨secs, hsecs, -⟩ := h
      exact Option.isSome_iff_exists.2 ⟨secs, hsecs⟩
    | level =>
      obtain ⟨level, hlevel, -⟩ := h
      exact Option.isSome_iff_exists.2 ⟨level, hlevel⟩
  cases saying with
  | path text => exact Option.isSome_iff_exists.2 ⟨text, h.1⟩
  | detached slot text => exact hreads h
  | attached slot text => exact hreads h
  | flag raised => exact h

/-- what a request does not ask for it is already without -/
theorem without_of_not_asksFor (h : request.asksFor subject = false) : request.without subject = request := by
  obtain ⟨path, interval, noVerify, sync, level, once⟩ := request
  rcases subject with _ | ((_ | _) | (_ | _ | _)) <;>
    simp only [Request.asksFor, Request.fills, Request.gives, Request.isRaised, Option.isSome_eq_false_iff,
      Option.isNone_iff_eq_none] at h <;> subst h <;> rfl

theorem eq_start_of_asksFor (h : ∀ subject, request.asksFor subject = false) : request = {} := by
  have hpath := h .path
  have hinterval := h (.part (.slot .interval))
  have hlevel := h (.part (.slot .level))
  have hverify := h (.part (.flag .noVerify))
  have hsync := h (.part (.flag .sync))
  have honce := h (.part (.flag .once))
  obtain ⟨path, interval, noVerify, sync, level, once⟩ := request
  simp only [Request.asksFor, Request.fills, Request.gives, Request.isRaised, Option.isSome_eq_false_iff,
    Option.isNone_iff_eq_none] at hpath hinterval hlevel hverify hsync honce
  subst hpath hinterval hlevel hverify hsync honce
  rfl

/-- a request that asks for nothing -/
theorem said_nothing : Said {} [] :=
  ⟨by simp, List.nodup_nil, fun subject hasks => by rcases subject with _ | ((_ | _) | (_ | _ | _)) <;> cases hasks⟩

/-- what is said is what the request asks for -/
theorem Said.mem_iff (h : Said request sayings) :
    subject ∈ sayings.map Saying.subject ↔ request.asksFor subject = true := by
  constructor
  · intro hmem
    obtain ⟨saying, hsaying, rfl⟩ := List.mem_map.1 hmem
    exact (h.holds saying hsaying).asksFor
  · exact h.all subject

/-- **What is said last** is so, and the rest is said of the request without it. -/
theorem said_append :
    Said request (sayings ++ [saying]) ↔ Said (request.without saying.subject) sayings ∧ saying.Holds request := by
  constructor
  · intro h
    have honce := h.once
    rw [List.map_append, List.nodup_append] at honce
    have hother : ∀ other ∈ sayings, other.subject ≠ saying.subject := fun other hmem =>
      honce.2.2 _ (List.mem_map_of_mem hmem) _ (by simp)
    refine ⟨⟨fun other hmem => ?_, honce.1, fun subject hasks => ?_⟩, h.holds saying (by simp)⟩
    · exact (Saying.holds_without (hother other hmem)).2 (h.holds other (List.mem_append_left _ hmem))
    · rw [asksFor_without, Bool.and_eq_true, decide_eq_true_eq] at hasks
      simpa [hasks.1] using h.all subject hasks.2
  · rintro ⟨h, hsaying⟩
    have hfresh : saying.subject ∉ sayings.map Saying.subject := by
      rw [h.mem_iff, asksFor_without]
      simp
    refine ⟨fun other hmem => ?_, ?_, fun subject hasks => ?_⟩
    · rcases List.mem_append.1 hmem with hmem | hmem
      · refine (Saying.holds_without fun heq => hfresh ?_).1 (h.holds other hmem)
        exact heq ▸ List.mem_map_of_mem hmem
      · rwa [List.mem_singleton.1 hmem]
    · rw [List.map_append, List.nodup_append]
      refine ⟨h.once, by simp, fun subject hmem other hother => ?_⟩
      rintro rfl
      rw [List.map_singleton, List.mem_singleton] at hother
      exact hfresh (hother ▸ hmem)
    · rw [List.map_append, List.mem_append, h.mem_iff, asksFor_without]
      by_cases heq : subject = saying.subject
      · simp [heq]
      · simp [heq, hasks]

theorem spelled_append (sayings : List Saying) (saying : Saying) :
    spelled (sayings ++ [saying]) = spelled sayings ++ saying.words := by simp [spelled]

/-! ## One saying -/

/-- an option's value is stored for what it says -/
theorem store_iff : store request slot text = .ok next ↔
    next.Reads text slot ∧ request = next.without (.part (.slot slot)) := by
  constructor
  · intro h
    rcases store_eq_ok h with ⟨secs, rfl, hnone, hread, rfl⟩ | ⟨level, rfl, hnone, hread, rfl⟩
    · exact ⟨⟨secs, rfl, Decimal.readUnsigned_eq_ok.1 hread⟩, by rw [Request.without, ← hnone]⟩
    · exact ⟨⟨level, rfl, parseLevel_eq_ok.1 hread⟩, by rw [Request.without, ← hnone]⟩
  · rintro ⟨hreads, rfl⟩
    obtain ⟨path, interval, noVerify, sync, level, once⟩ := next
    cases slot with
    | interval =>
      obtain ⟨secs, rfl, hnumeral⟩ := hreads
      unfold store
      simp [Request.without, Decimal.readUnsigned_eq_ok.2 hnumeral]
    | level =>
      obtain ⟨level, rfl, hspells⟩ := hreads
      unfold store
      simp [Request.without, parseLevel_eq_ok.2 hspells]

/-- a flag is raised for what it says -/
theorem raise_iff : raise request raised = .ok next ↔
    next.isRaised raised = true ∧ request = next.without (.part (.flag raised)) := by
  rw [raise_eq]
  constructor
  · intro h
    split_ifs at h with hraised
    cases h
    obtain ⟨path, interval, noVerify, sync, level, once⟩ := request
    cases raised <;> simp_all [Request.isRaised, Request.raised, Request.without]
  · rintro ⟨hraised, rfl⟩
    obtain ⟨path, interval, noVerify, sync, level, once⟩ := next
    cases raised <;> simp_all [Request.isRaised, Request.raised, Request.without]

/-- no value of an option looks like an option -/
theorem Request.Reads.undashed (h : request.Reads text slot) : Undashed text := by
  cases slot with
  | interval =>
    obtain ⟨secs, -, digits, hdigits, htext⟩ := h
    refine .inr fun hdash => ?_
    rcases htext with htext | htext <;> rw [htext] at hdash
    · exact absurd (hdigits.all '-' (List.mem_of_mem_head? hdash)) (by decide)
    · cases hdash
  | level =>
    obtain ⟨level, -, hspells⟩ := h
    have hclass := classify_level (parseLevel_eq_ok.2 hspells)
    have hlooks := looks_classify text
    rw [hclass] at hlooks
    cases hlooks with
    | undashed h => exact h

/-! ## Reading what is said -/

theorem foldlM_concat {next : Progress} (hread : words.foldlM take {} = .ok progress)
    (htake : take progress text = .ok next) : (words ++ [text]).foldlM take {} = .ok next := by
  rw [foldlM_append_of_ok hread, List.foldlM_cons, htake]
  rfl

/-- the arguments are read, the options go on, and what was read comes to the request -/
def ReadsTo (words : List String) (request : Request) : Prop :=
  ∃ progress, words.foldlM take {} = .ok progress ∧ progress.optionsEnded = false ∧ settle progress = .ok { request }

/-- a text that is put where no path was given is the path -/
theorem takePath_of_settle (hsettle : settle progress = .ok settled) (hnone : settled.request.path = none)
    (text : String) : takePath progress text = .ok { settled with pending := .path text } := by
  obtain ⟨request, rfl, hpath⟩ := settle_eq_ok hsettle
  have hfree : progress.hasPath = false := by
    rw [← hpath]
    exact Option.isSome_eq_false_iff.2 (Option.isNone_iff_eq_none.2 hnone)
  unfold takePath
  rw [hfree, hsettle]
  rfl

theorem settle_path (request : Request) (ended : Bool) (h : text ≠ "") :
    settle { request, pending := .path text, optionsEnded := ended } =
      .ok { request := { request with path := some text }, optionsEnded := ended } := by
  have hvalue : text.isEmpty = false := by simpa using h
  unfold settle
  simp only [hvalue, Bool.false_eq_true, if_false]

theorem settle_given (request : Request) (slot : Slot) (text : String) (ended : Bool) :
    settle { request, pending := .given slot text, optionsEnded := ended } =
      (store request slot text).map fun request => { request, optionsEnded := ended } := rfl

theorem take_flag (hended : progress.optionsEnded = false) (hsettle : settle progress = .ok settled) (raised : Flag) :
    take progress raised.name =
      (raise settled.request raised).mapError .refused >>= fun request => .ok { settled with request } := by
  unfold take
  rw [if_neg (by simp [hended]), classify_flag, hsettle]
  rfl

/-- **What is said is read for what it says.** -/
theorem ReadsTo.append (h : ReadsTo words (request.without saying.subject)) (hsaying : saying.Holds request) :
    ReadsTo (words ++ saying.words) request := by
  obtain ⟨progress, hread, hended, hsettle⟩ := h
  cases saying with
  | path text =>
    obtain ⟨hpath, hvalue, hundashed⟩ := hsaying
    have htake : take progress text = .ok { request := request.without .path, pending := .path text } := by
      rw [take_plain hended (classify_undashed hundashed) (settle_not_awaiting hsettle)]
      exact takePath_of_settle hsettle rfl text
    refine ⟨_, foldlM_concat hread htake, rfl, ?_⟩
    rw [settle_path _ _ hvalue, ← hpath]
    rfl
  | detached slot text =>
    have hstore : store (request.without (.part (.slot slot))) slot text = .ok request := store_iff.2 ⟨hsaying, rfl⟩
    have htake : take progress slot.name =
        .ok { request := request.without (.part (.slot slot)), pending := .awaiting slot } := by
      rw [take_name hended slot, hsettle]
      rfl
    have hname := foldlM_concat hread htake
    have hvalue := foldlM_concat hname (take_awaited rfl (classify_undashed (Request.Reads.undashed hsaying)) rfl)
    rw [List.append_assoc] at hvalue
    refine ⟨_, hvalue, rfl, ?_⟩
    show settle { request := request.without (.part (.slot slot)), pending := .given slot text } = _
    rw [settle_given, hstore]
    rfl
  | attached slot text =>
    have hstore : store (request.without (.part (.slot slot))) slot text = .ok request := store_iff.2 ⟨hsaying, rfl⟩
    have htake : take progress (slot.name ++ "=" ++ text) = .ok { request } := by
      rw [take_attached hended hsettle]
      show (store (request.without (.part (.slot slot))) slot text).mapError Stop.refused >>= _ = _
      rw [hstore]
      rfl
    exact ⟨_, foldlM_concat hread htake, rfl, settle_of_nothing rfl⟩
  | flag raised =>
    have hraise : raise (request.without (.part (.flag raised))) raised = .ok request := raise_iff.2 ⟨hsaying, rfl⟩
    have htake : take progress raised.name = .ok { request } := by
      rw [take_flag hended hsettle]
      show (raise (request.without (.part (.flag raised))) raised).mapError Stop.refused >>= _ = _
      rw [hraise]
      rfl
    exact ⟨_, foldlM_concat hread htake, rfl, settle_of_nothing rfl⟩

/-- everything that is said is read for what it says, one after another -/
theorem Said.readsTo (h : Said request sayings) : ReadsTo (spelled sayings) request := by
  -- from the right: the last thing is said to a reading that has come to the rest of the request
  induction sayings using List.reverseRecOn generalizing request with
  | nil =>
    have hnothing : request = {} := eq_start_of_asksFor fun subject =>
      Bool.eq_false_iff.2 fun hasks => List.not_mem_nil (h.all subject hasks)
    exact ⟨{}, rfl, rfl, hnothing ▸ rfl⟩
  | append_singleton rest last ih =>
    obtain ⟨hrest, hlast⟩ := said_append.1 h
    rw [spelled_append]
    exact (ih hrest).append hlast

/-- **Arguments that spell a request are read as it.** -/
theorem Spells.parse (h : Spells request arguments) : parse arguments = .ok request := by
  have hsettled {words : List String} {progress : Progress} (hread : words.foldlM take {} = .ok progress) {ended : Bool}
      (hsettle : settle progress = .ok { request, optionsEnded := ended }) : Command.parse words = .ok request := by
    rw [parse_of_read hread, hsettle]
    rfl
  cases h with
  | plainly h =>
    obtain ⟨progress, hread, -, hsettle⟩ := h.readsTo
    exact hsettled hread hsettle
  | closed h =>
    obtain ⟨progress, hread, hended, hsettle⟩ := h.readsTo
    have hend := foldlM_concat hread (take_endOfOptions hended ((classify_end "--").2 rfl))
    refine @hsettled _ _ hend true ?_
    rw [settle_ended, hsettle]
    rfl
  | @behind sayings path hpath hvalue h =>
    obtain ⟨progress, hread, hended, hsettle⟩ := h.readsTo
    have hend := foldlM_concat hread (take_endOfOptions hended ((classify_end "--").2 rfl))
    have hlater : settle { progress with optionsEnded := true } =
        .ok { request := { request with path := none }, optionsEnded := true } := by
      rw [settle_ended, hsettle]
      rfl
    have htake : take { progress with optionsEnded := true } path =
        .ok { request := { request with path := none }, pending := .path path, optionsEnded := true } :=
      takePath_of_settle hlater rfl path
    have hfinal := foldlM_concat hend htake
    rw [List.append_assoc] at hfinal
    refine @hsettled _ _ hfinal true ?_
    rw [settle_path _ _ hvalue, ← hpath]

/-! ## And nothing else is read -/

/-- how the arguments that were read spell what they come to, if they come to anything -/
inductive Stated : List String → Progress → Prop
  | reading {sayings : List Saying} {progress : Progress} (hended : progress.optionsEnded = false)
    (hready : ∀ slot, progress.pending ≠ .awaiting slot)
    (h : ∀ settled, settle progress = .ok settled → Said settled.request sayings) :
    Stated (spelled sayings) progress
  | awaiting {sayings : List Saying} {progress : Progress} {slot : Slot} (hended : progress.optionsEnded = false)
    (hpending : progress.pending = .awaiting slot) (h : Said progress.request sayings) :
    Stated (spelled sayings ++ [slot.name]) progress
  | closed {sayings : List Saying} {progress : Progress} (hended : progress.optionsEnded = true)
    (h : ∀ settled, settle progress = .ok settled → Said settled.request sayings) :
    Stated (spelled sayings ++ ["--"]) progress
  | behind {sayings : List Saying} {progress : Progress} {path : String} (hended : progress.optionsEnded = true)
    (hpath : progress.hasPath = true)
    (h : ∀ settled, settle progress = .ok settled →
      settled.request.path = some path ∧ path ≠ "" ∧ Said { settled.request with path := none } sayings) :
    Stated (spelled sayings ++ ["--", path]) progress
  /-- the value that an option waits for can no longer come -/
  | stuck {words : List String} {progress : Progress} (hended : progress.optionsEnded = true)
    (hfault : ∀ settled, settle progress ≠ .ok settled) : Stated words progress

/-- one saying more, behind those that are settled -/
theorem Stated.say (hended : progress.optionsEnded = false) (hready : ∀ slot, progress.pending ≠ .awaiting slot)
    (h : ∀ settled, settle progress = .ok settled →
      Said (settled.request.without saying.subject) sayings ∧ saying.Holds settled.request) :
    Stated (spelled sayings ++ saying.words) progress :=
  spelled_append sayings saying ▸ .reading hended hready fun settled hsettle => said_append.2 (h settled hsettle)

/-- where options go on, everything so far is said, but for the value that an option may wait for -/
theorem Stated.goesOn (h : Stated words progress) (hended : progress.optionsEnded = false) :
    (∃ sayings, words = spelled sayings ∧ (∀ slot, progress.pending ≠ .awaiting slot) ∧
      ∀ settled, settle progress = .ok settled → Said settled.request sayings) ∨
    ∃ sayings slot, words = spelled sayings ++ [Slot.name slot] ∧ progress.pending = .awaiting slot ∧
      Said progress.request sayings := by
  cases h with
  | reading _ hready h => exact .inl ⟨_, rfl, hready, h⟩
  | awaiting _ hpending h => exact .inr ⟨_, _, rfl, hpending, h⟩
  | closed htrue _ => rw [hended] at htrue; cases htrue
  | behind htrue _ _ => rw [hended] at htrue; cases htrue
  | stuck htrue _ => rw [hended] at htrue; cases htrue

/-- where options go on and nothing is at fault, everything so far is said -/
theorem Stated.said (h : Stated words progress) (hended : progress.optionsEnded = false)
    (hsettle : settle progress = .ok settled) : ∃ sayings, words = spelled sayings ∧ Said settled.request sayings := by
  rcases h.goesOn hended with ⟨sayings, hwords, -, hsaid⟩ | ⟨sayings, slot, -, hpending, -⟩
  · exact ⟨sayings, hwords, hsaid settled hsettle⟩
  · exact (settle_not_awaiting hsettle slot hpending).elim

/-- a text in the place of the path is the path -/
theorem request_of_settle_path {request : Request} {ended : Bool} {later : Progress} (hnone : request.path = none)
    (h : settle { request, pending := .path text, optionsEnded := ended } = .ok later) :
    later.request.path = some text ∧ text ≠ "" ∧ later.request.without .path = request := by
  cases settled_of_settle h with
  | nothing hpending => cases hpending
  | given hpending _ => cases hpending
  | path hpending hvalue =>
    cases hpending
    exact ⟨rfl, by simpa using hvalue, by rw [Request.without, ← hnone]⟩

theorem Stated.path (h : Stated words progress) (hsettle : settle progress = .ok settled)
    (htext : progress.optionsEnded = true ∨ Undashed text) (hfree : progress.hasPath = false) :
    Stated (words ++ [text]) { settled with pending := .path text } := by
  obtain ⟨request, rfl, hpath⟩ := settle_eq_ok hsettle
  have hnone : request.path = none := Option.isNone_iff_eq_none.1 (Option.isSome_eq_false_iff.1 (hpath.trans hfree))
  cases hended : progress.optionsEnded with
  | false =>
    obtain ⟨sayings, rfl, hsaid⟩ := h.said hended hsettle
    refine @Stated.say sayings (.path text) _ rfl (fun slot heq => by cases heq) fun later hlater => ?_
    obtain ⟨hgiven, hnonempty, hrest⟩ := request_of_settle_path hnone hlater
    exact ⟨by rw [Saying.subject, hrest]; exact hsaid, hgiven, hnonempty, htext.resolve_left (by simp [hended])⟩
  | true =>
    cases h with
    | reading hfalse _ _ => rw [hended] at hfalse; cases hfalse
    | awaiting hfalse _ _ => rw [hended] at hfalse; cases hfalse
    | stuck _ hfault => exact (hfault _ hsettle).elim
    | behind _ hgiven _ => rw [hfree] at hgiven; cases hgiven
    | closed _ hsaid =>
      rw [List.append_assoc]
      refine .behind rfl rfl fun later hlater => ?_
      obtain ⟨hgiven, hnonempty, hrest⟩ := request_of_settle_path hnone hlater
      refine ⟨hgiven, hnonempty, ?_⟩
      have hwithout : { later.request with path := none } = request := hrest
      rw [hwithout]
      exact hsaid _ hsettle

/-- the value that an option waits for is said of it -/
theorem Stated.value (h : Stated words progress) (hended : progress.optionsEnded = false)
    (hpending : progress.pending = .awaiting slot) (text : String) :
    Stated (words ++ [text]) { progress with pending := .given slot text } := by
  rcases h.goesOn hended with ⟨sayings, -, hready, -⟩ | ⟨sayings, other, rfl, hother, hsaid⟩
  · exact (hready slot hpending).elim
  · cases hpending.symm.trans hother
    rw [List.append_assoc]
    refine @Stated.say sayings (.detached slot text) _ hended (fun slot heq => by cases heq) fun later hlater => ?_
    obtain ⟨request, hstore, rfl⟩ := map_eq_ok.1 ((settle_given _ slot text _).symm.trans hlater)
    obtain ⟨hreads, hrest⟩ := store_iff.1 hstore
    rw [hrest] at hsaid
    exact ⟨hsaid, hreads⟩

/-- behind `--` nothing more is said of an option, and one that waits for its value waits in vain -/
theorem Stated.close (h : Stated words progress) (hended : progress.optionsEnded = false) :
    Stated (words ++ ["--"]) { progress with optionsEnded := true } := by
  rcases h.goesOn hended with ⟨sayings, rfl, -, hsaid⟩ | ⟨sayings, slot, rfl, hpending, -⟩
  · refine .closed rfl fun later hlater => ?_
    rw [settle_ended] at hlater
    obtain ⟨settled, hsettle, rfl⟩ := map_eq_ok.1 hlater
    exact hsaid settled hsettle
  · exact .stuck rfl fun later hlater => settle_not_awaiting hlater slot hpending

/-- one argument more -/
theorem Stated.take {next : Progress} (h : Stated words progress) (htaken : Taken text progress next) :
    Stated (words ++ [text]) next := by
  have hlooks := looks_classify text
  cases htaken with
  | path value hsettle htext hfree hvalue =>
    rcases htext with hended | hclass
    · rw [hvalue hended]
      exact h.path hsettle (.inl hended) hfree
    · rw [hclass] at hlooks
      cases hlooks with
      | undashed hundashed => exact h.path hsettle (.inr hundashed) hfree
  | value hended hclass hpending =>
    rw [hclass] at hlooks
    cases hlooks
    exact h.value hended hpending text
  | endOfOptions hended hclass =>
    rw [(classify_end text).1 hclass]
    exact h.close hended
  | @option settled slot hended hclass hsettle =>
    rw [hclass] at hlooks
    cases hlooks
    obtain ⟨sayings, rfl, hsaid⟩ := h.said hended hsettle
    obtain ⟨request, rfl, -⟩ := settle_eq_ok hsettle
    exact .awaiting hended rfl hsaid
  | @attached settled slot value request hended hclass hsettle hstore =>
    rw [hclass] at hlooks
    cases hlooks
    obtain ⟨sayings, rfl, hsaid⟩ := h.said hended hsettle
    obtain ⟨hreads, hrest⟩ := store_iff.1 hstore
    obtain ⟨_, rfl, -⟩ := settle_eq_ok hsettle
    refine @Stated.say sayings (.attached slot value) _ hended (fun slot heq => by cases heq) fun later hlater => ?_
    cases (settle_of_nothing rfl).symm.trans hlater
    rw [hrest] at hsaid
    exact ⟨hsaid, hreads⟩
  | @flag settled raised hended hclass hsettle hraised =>
    rw [hclass] at hlooks
    cases hlooks
    obtain ⟨sayings, rfl, hsaid⟩ := h.said hended hsettle
    obtain ⟨request, rfl, -⟩ := settle_eq_ok hsettle
    have hraise : raise request raised = .ok (request.raised raised) := by rw [raise_eq, hraised]; rfl
    obtain ⟨hholds, hrest⟩ := raise_iff.1 hraise
    refine @Stated.say sayings (.flag raised) _ hended (fun slot heq => by cases heq) fun later hlater => ?_
    cases (settle_of_nothing rfl).symm.trans hlater
    rw [hrest] at hsaid
    exact ⟨hsaid, hholds⟩

theorem stated_of_read (h : words.foldlM take {} = .ok progress) : Stated words progress := by
  -- from the right too, since what is stated grows at its end
  induction words using List.reverseRecOn generalizing progress with
  | nil =>
    cases h
    refine @Stated.reading [] _ rfl (fun slot heq => by cases heq) fun settled hsettle => ?_
    cases hsettle
    exact said_nothing
  | append_singleton rest text ih =>
    rw [List.foldlM_append] at h
    obtain ⟨before, hrest, hlast⟩ := bind_eq_ok.1 h
    rw [List.foldlM_cons] at hlast
    obtain ⟨next, htake, hnext⟩ := bind_eq_ok.1 hlast
    cases hnext
    exact (ih hrest).take (taken_of_take htake)

/-- **Arguments that are read as a request spell it.** -/
theorem spells_of_parse (h : parse arguments = .ok request) : Spells request arguments := by
  obtain ⟨progress, hread, hfinal⟩ := bind_eq_ok.1 h
  obtain ⟨settled, hsettle, hrequest⟩ := bind_eq_ok.1 hfinal
  cases hrequest
  have hsettled := mapError_eq_ok.1 hsettle
  cases stated_of_read hread with
  | reading _ _ hsaid => exact .plainly (hsaid settled hsettled)
  | awaiting _ hpending _ => exact (settle_not_awaiting hsettled _ hpending).elim
  | closed _ hsaid => exact .closed (hsaid settled hsettled)
  | behind _ _ hsaid =>
    obtain ⟨hpath, hvalue, hrest⟩ := hsaid settled hsettled
    exact .behind hpath hvalue hrest
  | stuck _ hfault => exact (hfault settled hsettled).elim

theorem parse_iff : parse arguments = .ok request ↔ Spells request arguments := ⟨spells_of_parse, Spells.parse⟩

/-! ## Whole command lines -/

/-- what can be said of a part can be said last -/
theorem exists_said_without {part : Part} (h : ∃ sayings, Said (request.without (.part part)) sayings) :
    ∃ sayings, Said request sayings := by
  obtain ⟨sayings, hsaid⟩ := h
  have hsaying (hfills : request.fills part = true) :
      ∃ saying : Saying, saying.subject = .part part ∧ saying.Holds request := by
    cases part with
    | slot slot =>
      cases slot with
      | interval =>
        obtain ⟨secs, hsecs⟩ := Option.isSome_iff_exists.1 hfills
        exact ⟨.attached .interval (toString secs.toNat), rfl, secs, hsecs, Decimal.numeral_toString _⟩
      | level =>
        obtain ⟨level, hlevel⟩ := Option.isSome_iff_exists.1 hfills
        exact ⟨.attached .level level.name, rfl, level, hlevel, spellsLevel_name level⟩
    | flag raised => exact ⟨.flag raised, rfl, hfills⟩
  cases hfills : request.fills part with
  | false =>
    have hsame : request.without (.part part) = request := without_of_not_asksFor hfills
    exact ⟨sayings, hsame ▸ hsaid⟩
  | true =>
    obtain ⟨saying, hsubject, hholds⟩ := hsaying hfills
    exact ⟨sayings ++ [saying], said_append.2 ⟨hsubject ▸ hsaid, hholds⟩⟩

/-- whatever a request asks for can be said -/
theorem exists_said (hpath : request.path = none) : ∃ sayings, Said request sayings := by
  obtain ⟨path, interval, noVerify, sync, level, once⟩ := request
  cases hpath
  have hinterval := @exists_said_without { interval } (.slot .interval) ⟨[], said_nothing⟩
  have hlevel := @exists_said_without { interval, level } (.slot .level) hinterval
  have hverify := @exists_said_without { interval, level, noVerify } (.flag .noVerify) hlevel
  have hsync := @exists_said_without { interval, level, noVerify, sync } (.flag .sync) hverify
  exact @exists_said_without _ (.flag .once) hsync

theorem exists_spelled (h : request.path ≠ some "") : ∃ arguments, Spells request arguments := by
  obtain ⟨sayings, hsaid⟩ := @exists_said { request with path := none } rfl
  cases hpath : request.path with
  | none =>
    have hsame : { request with path := none } = request := by rw [← hpath]
    exact ⟨_, .plainly (hsame ▸ hsaid)⟩
  | some path => exact ⟨_, .behind hpath (fun hempty => h (hempty ▸ hpath)) hsaid⟩

/-- arguments that are not accepted leave the worker at rest and the files as they are -/
theorem Shutdown.Stands.of_stop {site : Site} {stop : Stop} {flow : Shutdown.Flow} {worker : Shutdown.Worker}
    {said : List Shutdown.Line} {tree : Files.Tree} (hparse : parse arguments = .error stop)
    (h : Shutdown.Stands site arguments flow worker said tree) :
    worker = .resting ∧ tree = site.tree ∧ flow.stage? = none := by
  have hnone (made : Plan) : ¬ Makes site arguments made := by
    rintro ⟨request, settings, hother, -, -⟩
    rw [hparse] at hother
    cases hother
  induction h with
  | parsing => exact ⟨rfl, rfl, rfl⟩
  | loading hother _ => rw [hparse] at hother; cases hother
  | starting hother _ => rw [hparse] at hother; cases hother
  | entering hmade => exact (hnone _ hmade).elim
  | probing hmade _ => exact (hnone _ hmade).elim
  | judging hmade _ => exact (hnone _ hmade).elim
  | idle hmade _ => exact (hnone _ hmade).elim
  | left signal hstage before ih =>
    rw [ih.2.2] at hstage
    cases hstage
  | ended hstatus hends => exact ⟨rfl, hends.tree.symm.trans (run_tree_of_stop hparse), rfl⟩

/-- **One request, one run.** Every request whose path is not empty can be spelled, and the arguments that are read as
it are those that spell it. Two spellings of one request make the same run. Where a spelling says something again in
front of `--`, or gives another path, the arguments are refused with exit status 2: no settings are read, whatever the
files are, and nothing is done to any target. -/
theorem spelled_alike :
    (∀ request : Request, request.path ≠ some "" → ∃ arguments, Spells request arguments) ∧
    (∀ (request : Request) (arguments : List String), Spells request arguments ↔ parse arguments = .ok request) ∧
    (∀ (request : Request) (first second : List String), Spells request first → Spells request second →
      (∀ site device, runOn site device first = runOn site device second) ∧
      ∀ state, Shutdown.accept state first = Shutdown.accept state second) ∧
    (∀ (request : Request) (before words after : List String),
      Spells request (before ++ after) → "--" ∉ before → Excess request words →
      ∃ refusal, parse (before ++ words ++ after) = .error (.refused refusal) ∧
        (∀ site device, runOn site device (before ++ words ++ after) = stopped site.tree (.refused refusal) ∧
          (runOn site device (before ++ words ++ after)).outcome.exitStatus? = some 2) ∧
        ∀ site state, Shutdown.Reached site (before ++ words ++ after) state →
          state.worker = .resting ∧ state.tree = site.tree) := by
  refine ⟨fun request => exists_spelled, fun request arguments => parse_iff.symm, ?_, ?_⟩
  · intro request first second hfirst hsecond
    have hsame : parse first = parse second := hfirst.parse.trans hsecond.parse.symm
    refine ⟨fun site device => ?_, fun state => ?_⟩
    · unfold runOn
      rw [hsame]
    · unfold Shutdown.accept
      rw [hsame]
  · intro request before words after hspells hbefore hwords
    obtain ⟨refusal, hrefused⟩ := parse_excess hspells.parse hbefore hwords
    refine ⟨refusal, hrefused, fun site device => ?_, fun site state hreached => ?_⟩
    · have hrun := @runOn_of_stop site device _ _ hrefused
      exact ⟨hrun, by rw [hrun]; rfl⟩
    · obtain ⟨hworker, htree, -⟩ := hreached.stood.of_stop hrefused
      exact ⟨hworker, htree⟩

/-! A path that looks like an option, and the other parts of the request said in two ways. -/

def dashedRequest : Request :=
  { path := some "-x", interval := some 7, sync := true, level := some .warn, once := true }

theorem dashed_numeral {text : String} (h : Decimal.readUnsigned text = .ok 7) : dashedRequest.Reads text .interval :=
  ⟨7, rfl, Decimal.readUnsigned_eq_ok.1 h⟩

theorem dashed_level {text : String} (h : Level.parse text = .ok .warn) : dashedRequest.Reads text .level :=
  ⟨.warn, rfl, parseLevel_eq_ok.1 h⟩

theorem dashed_spells : Spells dashedRequest
    ["--once", "--log-level=WARNING", "--interval", "+007", "--sync", "--", "-x"] := by
  have hsaid : Said { dashedRequest with path := none }
      [.flag .once, .attached .level "WARNING", .detached .interval "+007", .flag .sync] := by
    refine ⟨?_, by decide, ?_⟩
    · simp only [List.forall_mem_cons]
      exact ⟨rfl, dashed_level (by cbv), dashed_numeral (by cbv), rfl, by simp⟩
    · rintro (_ | ((_ | _) | (_ | _ | _))) hasks
      all_goals first | decide | cases hasks
  exact .behind rfl (by decide) hsaid

theorem dashed_spells_other : Spells dashedRequest
    ["--sync", "--interval=7", "--log-level", "warn", "--once", "--", "-x"] := by
  have hsaid : Said { dashedRequest with path := none }
      [.flag .sync, .attached .interval "7", .detached .level "warn", .flag .once] := by
    refine ⟨?_, by decide, ?_⟩
    · simp only [List.forall_mem_cons]
      exact ⟨rfl, dashed_numeral (by cbv), dashed_level (by cbv), rfl, by simp⟩
    · rintro (_ | ((_ | _) | (_ | _ | _))) hasks
      all_goals first | decide | cases hasks
  exact .behind rfl (by decide) hsaid

/-- both are read as the request and make one run; a flag raised again between an option and its value is refused, and
so is another path -/
theorem dashed_spelled_alike :
    (Spells dashedRequest ["--once", "--log-level=WARNING", "--interval", "+007", "--sync", "--", "-x"] ∧
      Spells dashedRequest ["--sync", "--interval=7", "--log-level", "warn", "--once", "--", "-x"]) ∧
    parse ["--once", "--log-level=WARNING", "--interval", "+007", "--sync", "--", "-x"] = .ok dashedRequest ∧
    (∀ site device,
      runOn site device ["--once", "--log-level=WARNING", "--interval", "+007", "--sync", "--", "-x"] =
        runOn site device ["--sync", "--interval=7", "--log-level", "warn", "--once", "--", "-x"]) ∧
    (∃ refusal, parse ["--once", "--log-level=WARNING", "--interval", "--sync", "+007", "--sync", "--", "-x"] =
      .error (.refused refusal)) ∧
    ∃ refusal, parse ["--once", "t", "--log-level=WARNING", "--interval", "+007", "--sync", "--", "-x"] =
      .error (.refused refusal) := by
  obtain ⟨-, hread, hsame, hagain⟩ := spelled_alike
  obtain ⟨refusal, hflag, -⟩ := hagain dashedRequest ["--once", "--log-level=WARNING", "--interval"] ["--sync"]
    ["+007", "--sync", "--", "-x"] dashed_spells (by decide) (@Excess.flag _ .sync rfl)
  obtain ⟨other, hpath, -⟩ := hagain dashedRequest ["--once"] ["t"]
    ["--log-level=WARNING", "--interval", "+007", "--sync", "--", "-x"] dashed_spells (by decide)
    (.path rfl (.inr (by decide)))
  exact ⟨⟨dashed_spells, dashed_spells_other⟩, (hread _ _).1 dashed_spells,
    (hsame _ _ _ dashed_spells dashed_spells_other).1, ⟨refusal, hflag⟩, other, hpath⟩

end BlockProbe.Command
