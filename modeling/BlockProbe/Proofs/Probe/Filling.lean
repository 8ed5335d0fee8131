/-
What filling a buffer comes to.

A script of replies goes on for as long as reads deliver something or are interrupted. Filling takes replies one by one,
each while there is room and nothing has ended the script, and what it leaves in the buffer is what they delivered with
the old contents behind it. So only the bytes that a script carries matter, and how it ends: not how the bytes are cut
and not the interruptions between them.

- `fill_reading`: the replies that are taken, and what they leave.
- `fill_carried`: the outcome and the buffer, from the bytes and the ending alone.
- `fill_failed_iff`, `fill_waits_iff`: when it fails, and when it does not come back.
- `fill_comes_back`: filling ends if interruptions always do.
-/
import BlockProbe.Proofs.Probe.Buffer
import Mathlib.Data.Nat.Find
import Mathlib.Data.Stream.Init

namespace BlockProbe.Probe

open BlockProbe.Files (Attempt Fault)

/-! ## Scripts -/

/-- does a read have to be made again because it was interrupted? -/
def isInterrupted : Reply → Bool
  | .ok _ => false
  | .error fault => fault.isInterruption

/-- the bytes of all replies, in order -/
def deliveries (replies : List Reply) : List UInt8 := replies.flatMap bytesOf

/-- behind these replies there is room, and none of them has ended reading: another read is made -/
structure Asks (space : Nat) (front : List Reply) : Prop where
  goesOn : ∀ reply ∈ front, goesOn reply = true
  room : (deliveries front).length < space

/-- no read that is made delivers more than it is offered -/
def Fits (space : Nat) (script : List Reply) : Prop :=
  ∀ front delivered back, script = front ++ .ok delivered :: back → Asks space front →
    (deliveries front).length + delivered.length ≤ space

/-- how a script ends: with the end of the source, with a fault, or without a reply -/
inductive Ending where
  | closed
  | broken (fault : Fault)
  | silent
deriving DecidableEq, Repr

/-- the bytes that a script carries in front of its ending, and the ending -/
def carried : List Reply → List UInt8 × Ending
  | [] => ([], .silent)
  | .ok delivered :: rest =>
    if delivered.isEmpty then ([], .closed) else (delivered ++ (carried rest).1, (carried rest).2)
  | .error fault :: rest => if fault.isInterruption then carried rest else ([], .broken fault)

variable {buffer : Buffer} {reply : Reply} {front taken rest script : List Reply} {delivered : List UInt8}
  {space : Nat}

@[simp] theorem deliveries_nil : deliveries [] = [] := rfl

@[simp] theorem deliveries_cons (reply : Reply) (rest : List Reply) :
    deliveries (reply :: rest) = bytesOf reply ++ deliveries rest := rfl

@[simp] theorem deliveries_append (front rest : List Reply) :
    deliveries (front ++ rest) = deliveries front ++ deliveries rest := List.flatMap_append

theorem asks_nil (h : 0 < space) : Asks space [] := ⟨by simp, h⟩

theorem Asks.cons (hreply : Probe.goesOn reply = true) (h : Asks (space - (bytesOf reply).length) front) :
    Asks space (reply :: front) where
  goesOn := List.forall_mem_cons.2 ⟨hreply, h.goesOn⟩
  room := by
    have hroom := h.room
    rw [deliveries_cons, List.length_append]
    omega

theorem fits_nil (space : Nat) : Fits space [] := by
  intro front delivered back h
  simp at h

theorem Fits.cons (hreply : (bytesOf reply).length ≤ space) (h : Fits (space - (bytesOf reply).length) rest) :
    Fits space (reply :: rest) := by
  intro front delivered back heq hasks
  cases front with
  | nil =>
    obtain ⟨rfl, -⟩ := List.cons.inj heq
    simpa [bytesOf] using hreply
  | cons first front =>
    obtain ⟨rfl, hbehind⟩ := List.cons.inj heq
    have hroom := hasks.room
    rw [deliveries_cons, List.length_append] at hroom ⊢
    have hfits := h front delivered back hbehind ⟨fun other hmem => hasks.goesOn other (.tail _ hmem), by omega⟩
    omega

/-- interruptions deliver nothing -/
theorem deliveries_interrupted (h : ∀ reply ∈ front, isInterrupted reply = true) : deliveries front = [] := by
  refine List.flatMap_eq_nil_iff.2 fun reply hmem => ?_
  cases reply with
  | ok delivered => cases h _ hmem
  | error fault => rfl

theorem carried_of_goesOn (h : goesOn reply = true) (rest : List Reply) :
    carried (reply :: rest) = (bytesOf reply ++ (carried rest).1, (carried rest).2) := by
  cases reply with
  | ok delivered =>
    have hsome : delivered.isEmpty = false := by simpa [goesOn] using h
    simp [carried, hsome, bytesOf]
  | error fault =>
    have hagain : fault.isInterruption = true := h
    simp [carried, hagain, bytesOf]

/-- an interruption anywhere changes nothing of what a script carries -/
theorem carried_interrupted (front : List Reply) {fault : Fault} (h : fault.isInterruption = true) (back : List Reply) :
    carried (front ++ .error fault :: back) = carried (front ++ back) := by
  induction front with
  | nil => simp [carried, h]
  | cons reply front ih =>
    cases reply with
    | ok delivered => simp [carried, ih]
    | error other => simp [carried, ih]

/-- cutting a delivery in two changes nothing either -/
theorem carried_cut (front : List Reply) {first second : List UInt8} (hfirst : first ≠ []) (hsecond : second ≠ [])
    (back : List Reply) :
    carried (front ++ .ok first :: .ok second :: back) = carried (front ++ .ok (first ++ second) :: back) := by
  induction front with
  | nil => simp [carried, hfirst, hsecond]
  | cons reply front ih =>
    cases reply with
    | ok delivered => simp [carried, ih]
    | error other => simp [carried, ih]

/-! ## The replies that are taken -/

/-- how filling ends, by the replies that it took -/
inductive Ends (buffer : Buffer) (taken unread : List Reply) : Attempt Fault Nat → Prop
  | full {n : Nat} (hn : n = (buffer.place (deliveries taken)).filled.length)
    (hall : ∀ reply ∈ taken, goesOn reply = true) (hfull : buffer.free.length ≤ (deliveries taken).length) :
    Ends buffer taken unread (.done n)
  | closed {n : Nat} (hn : n = (buffer.place (deliveries taken)).filled.length) (front : List Reply)
    (htaken : taken = front ++ [.ok []]) : Ends buffer taken unread (.done n)
  | broken {fault : Fault} (front : List Reply) (htaken : taken = front ++ [.error fault])
    (hfault : fault.isInterruption = false) : Ends buffer taken unread (.failed fault)
  | waits (hunread : unread = []) (hasks : Asks buffer.free.length taken) : Ends buffer taken unread .waits

/-- these replies are taken, each when it is asked for, and what is in the buffer and the ending come of them -/
structure Reading (buffer : Buffer) (script taken : List Reply) (result : Filling) : Prop where
  script : script = taken ++ result.unread
  asked : ∀ front reply back, taken = front ++ reply :: back → Asks buffer.free.length front
  holds : result.buffer = buffer.place (deliveries taken)
  ended : Ends buffer taken result.unread result.outcome

/-- one more reply in front -/
theorem Ends.cons {unread : List Reply} {outcome : Attempt Fault Nat} (hreply : goesOn reply = true)
    (h : Ends (buffer.place (bytesOf reply)) taken unread outcome) : Ends buffer (reply :: taken) unread outcome := by
  cases h with
  | full hn hall hfull =>
    refine .full (by rw [hn, place_place, deliveries_cons]) (List.forall_mem_cons.2 ⟨hreply, hall⟩) ?_
    rw [place_free_length] at hfull
    rw [deliveries_cons, List.length_append]
    omega
  | closed hn front htaken =>
    exact .closed (by rw [hn, place_place, deliveries_cons]) (reply :: front) (congrArg (reply :: ·) htaken)
  | broken front htaken hfault => exact .broken (reply :: front) (congrArg (reply :: ·) htaken) hfault
  | waits hunread hasks =>
    rw [place_free_length] at hasks
    exact .waits hunread (hasks.cons hreply)

theorem Reading.cons {result : Filling} (hroom : 0 < buffer.free.length) (hreply : goesOn reply = true)
    (h : Reading (buffer.place (bytesOf reply)) script taken result) :
    Reading buffer (reply :: script) (reply :: taken) result where
  script := by rw [List.cons_append, ← h.script]
  asked := by
    intro front other back heq
    cases front with
    | nil => exact asks_nil hroom
    | cons first front =>
      obtain ⟨rfl, hbehind⟩ := List.cons.inj heq
      have hasks := h.asked front other back hbehind
      rw [place_free_length] at hasks
      exact hasks.cons hreply
  holds := by rw [h.holds, place_place, deliveries_cons]
  ended := h.ended.cons hreply

/-- nothing is taken -/
theorem Reading.nothing {outcome : Attempt Fault Nat} (h : Ends buffer [] script outcome) :
    Reading buffer script [] { outcome, buffer, unread := script } where
  script := rfl
  asked := by simp
  holds := by simp
  ended := h

/-- one reply without bytes, behind which nothing is taken -/
theorem Reading.last {outcome : Attempt Fault Nat} (hroom : 0 < buffer.free.length) (hbytes : bytesOf reply = [])
    (h : Ends buffer [reply] rest outcome) :
    Reading buffer (reply :: rest) [reply] { outcome, buffer, unread := rest } where
  script := rfl
  asked := by
    intro front other back heq
    cases front with
    | nil => exact asks_nil hroom
    | cons first front =>
      have hnone := (List.cons.inj heq).2
      cases front <;> cases hnone
  holds := by simp [hbytes]
  ended := h

theorem fill_reading_full (h : buffer.free = []) (script : List Reply) :
    Reading buffer script [] (buffer.fill script) := by
  rw [fill_full h]
  exact .nothing (.full (by simp) (by simp) (by simp [h]))

/-- **Filling takes replies in order**, each while there is room and nothing has ended it. -/
theorem fill_reading (buffer : Buffer) (script : List Reply) :
    ∃ taken, Reading buffer script taken (buffer.fill script) := by
  induction script generalizing buffer with
  | nil =>
    by_cases hfree : buffer.free = []
    · exact ⟨[], fill_reading_full hfree []⟩
    · have hwaits : buffer.fill [] = { outcome := .waits, buffer, unread := [] } := by simp [Buffer.fill, hfree]
      rw [hwaits]
      exact ⟨[], .nothing (.waits rfl (asks_nil (List.length_pos_iff.2 hfree)))⟩
  | cons reply rest ih =>
    by_cases hfree : buffer.free = []
    · exact ⟨[], fill_reading_full hfree (reply :: rest)⟩
    have hroom : 0 < buffer.free.length := List.length_pos_iff.2 hfree
    cases hreply : goesOn reply with
    | true =>
      obtain ⟨taken, htaken⟩ := ih (buffer.place (bytesOf reply))
      rw [fill_goesOn hroom hreply]
      exact ⟨reply :: taken, htaken.cons hroom hreply⟩
    | false =>
      rcases ends_of_not_goesOn hreply with rfl | ⟨fault, rfl, hfault⟩
      · rw [fill_closed hroom]
        exact ⟨[.ok []], .last hroom rfl (.closed (by simp [bytesOf]) [] rfl)⟩
      · rw [fill_broken hroom hfault]
        exact ⟨[.error fault], .last hroom rfl (.broken [] rfl hfault)⟩

/-- replies that are all asked for deliver no more than there is room for -/
theorem Fits.taken_le {unread : List Reply} (h : Fits space (taken ++ unread))
    (hasked : ∀ front reply back, taken = front ++ reply :: back → Asks space front) :
    (deliveries taken).length ≤ space := by
  rcases List.eq_nil_or_concat taken with rfl | ⟨front, reply, rfl⟩
  · exact Nat.zero_le space
  · rw [List.concat_eq_append] at h hasked ⊢
    have hasks := hasked front reply [] rfl
    cases reply with
    | ok delivered =>
      have hfits := h front delivered unread (by simp) hasks
      simpa [bytesOf] using hfits
    | error fault =>
      have hroom := hasks.room
      simpa [bytesOf] using Nat.le_of_lt hroom

/-- replies behind which reading goes on are taken, and the rest is read behind them -/
theorem fill_append (h : Asks buffer.free.length front) (rest : List Reply) :
    buffer.fill (front ++ rest) = (buffer.place (deliveries front)).fill rest := by
  induction front generalizing buffer with
  | nil => rw [deliveries_nil, place_nil, List.nil_append]
  | cons reply front ih =>
    obtain ⟨hreply, hfront⟩ := List.forall_mem_cons.1 h.goesOn
    have hroom := h.room
    rw [deliveries_cons, List.length_append] at hroom
    have hbehind : Asks (buffer.place (bytesOf reply)).free.length front :=
      ⟨hfront, by rw [place_free_length]; omega⟩
    rw [List.cons_append, fill_goesOn (by omega) hreply, ih hbehind, place_place, deliveries_cons]

/-- **Filling fails with a fault** if that is what stops reading, and there is room. -/
theorem fill_failed_iff {fault : Fault} :
    (buffer.fill script).outcome = .failed fault ↔
      ∃ front back, script = front ++ .error fault :: back ∧ fault.isInterruption = false ∧
        Asks buffer.free.length front := by
  constructor
  · intro h
    obtain ⟨taken, hreading⟩ := fill_reading buffer script
    have hended := hreading.ended
    rw [h] at hended
    cases hended with
    | broken front htaken hfault =>
      have hsplit := hreading.script
      rw [htaken, List.append_assoc] at hsplit
      exact ⟨front, (buffer.fill script).unread, hsplit, hfault, hreading.asked front _ [] htaken⟩
  · rintro ⟨front, back, rfl, hfault, hasks⟩
    have hroom : 0 < (buffer.place (deliveries front)).free.length := by
      have := hasks.room
      rw [place_free_length]
      omega
    rw [fill_append hasks, fill_broken hroom hfault]

/-- **Filling waits for ever** if all replies have been taken and another is asked for. -/
theorem fill_waits_iff : (buffer.fill script).outcome = .waits ↔ Asks buffer.free.length script := by
  constructor
  · intro h
    obtain ⟨taken, hreading⟩ := fill_reading buffer script
    have hended := hreading.ended
    rw [h] at hended
    cases hended with
    | waits hunread hasks => rwa [hreading.script, hunread, List.append_nil]
  · intro hasks
    have hroom : (buffer.place (deliveries script)).free ≠ [] := by
      have := hasks.room
      rw [← List.length_pos_iff, place_free_length]
      omega
    have hfill := fill_append hasks []
    rw [List.append_nil] at hfill
    simp [hfill, Buffer.fill, hroom]

/-! ## Only what is carried matters -/

/-- what a buffer comes to when a script carries these bytes and ends so -/
def Buffer.after (buffer : Buffer) (carried : List UInt8 × Ending) : Attempt Fault Nat × Buffer :=
  let placed := buffer.place carried.1
  if buffer.free.length ≤ carried.1.length then (.done placed.filled.length, placed)
  else
    match carried.2 with
    | .closed => (.done placed.filled.length, placed)
    | .broken fault => (.failed fault, placed)
    | .silent => (.waits, placed)

theorem after_full (h : buffer.free = []) (stream : List UInt8 × Ending) :
    buffer.after stream = (.done buffer.filled.length, buffer) := by
  unfold Buffer.after
  simp only [place_full h, h, List.length_nil, Nat.zero_le, if_true]

/-- the bytes in front are placed first -/
theorem after_append (buffer : Buffer) (first second : List UInt8) (ending : Ending) :
    buffer.after (first ++ second, ending) = (buffer.place first).after (second, ending) := by
  have hroom : buffer.free.length ≤ (first ++ second).length ↔ buffer.free.length - first.length ≤ second.length := by
    rw [List.length_append]
    omega
  unfold Buffer.after
  simp only [place_place, place_free_length, hroom]

/-- **Filling depends on the bytes that a script carries, and on its ending.** -/
theorem fill_carried (buffer : Buffer) (script : List Reply) :
    ((buffer.fill script).outcome, (buffer.fill script).buffer) = buffer.after (carried script) := by
  induction script generalizing buffer with
  | nil =>
    by_cases hfree : buffer.free = []
    · rw [fill_full hfree, after_full hfree]
    · simp [Buffer.fill, Buffer.after, carried, hfree]
  | cons reply rest ih =>
    by_cases hfree : buffer.free = []
    · rw [fill_full hfree, after_full hfree]
    have hroom : 0 < buffer.free.length := List.length_pos_iff.2 hfree
    cases hreply : goesOn reply with
    | true => rw [fill_goesOn hroom hreply, ih, carried_of_goesOn hreply, after_append]
    | false =>
      rcases ends_of_not_goesOn hreply with rfl | ⟨fault, rfl, hfault⟩
      · rw [fill_closed hroom]
        simp [Buffer.after, carried, hfree]
      · rw [fill_broken hroom hfault]
        simp [Buffer.after, carried, hfree, hfault]

/-! ## Filling comes back -/

/-- replies that are not asked for change nothing -/
theorem fill_more (h : (buffer.fill script).outcome ≠ .waits) (more : List Reply) :
    buffer.fill (script ++ more) = { buffer.fill script with unread := (buffer.fill script).unread ++ more } := by
  induction script generalizing buffer with
  | nil =>
    by_cases hfree : buffer.free = []
    · rw [fill_full hfree, fill_full hfree]
    · exact (h (by simp [Buffer.fill, hfree])).elim
  | cons reply rest ih =>
    by_cases hfree : buffer.free = []
    · rw [fill_full hfree, fill_full hfree]
    have hroom : 0 < buffer.free.length := List.length_pos_iff.2 hfree
    rw [List.cons_append]
    cases hreply : goesOn reply with
    | true =>
      rw [fill_goesOn hroom hreply] at h ⊢
      rw [fill_goesOn hroom hreply, ih h]
    | false =>
      rcases ends_of_not_goesOn hreply with rfl | ⟨fault, rfl, hfault⟩
      · rw [fill_closed hroom, fill_closed hroom]
      · rw [fill_broken hroom hfault, fill_broken hroom hfault]

/-- interruptions always come to an end -/
def Answers (stream : Stream' Reply) : Prop := ∀ k, ∃ j, k ≤ j ∧ isInterrupted (stream.get j) = false

theorem Answers.drop {stream : Stream' Reply} (h : Answers stream) (n : Nat) : Answers (stream.drop n) := by
  intro k
  obtain ⟨j, hj, hreply⟩ := h (n + k)
  refine ⟨j - n, by omega, ?_⟩
  rw [Stream'.get_drop]
  have heq : n + (j - n) = j := by omega
  rw [heq]
  exact hreply

theorem take_add (stream : Stream' Reply) (m n : Nat) :
    stream.take (m + n) = stream.take m ++ (stream.drop m).take n := by
  induction m generalizing stream with
  | zero => simp
  | succ m ih => rw [Nat.succ_add, Stream'.take_succ, Stream'.take_succ, ih, List.cons_append, Stream'.drop_succ]

/-- the first reply that is no interruption -/
theorem Answers.first {stream : Stream' Reply} (h : Answers stream) :
    ∃ j, (∀ reply ∈ stream.take j, isInterrupted reply = true) ∧ isInterrupted (stream.get j) = false := by
  have hex : ∃ j, isInterrupted (stream.get j) = false := by
    obtain ⟨j, -, hreply⟩ := h 0
    exact ⟨j, hreply⟩
  refine ⟨Nat.find hex, fun reply hmem => ?_, Nat.find_spec hex⟩
  obtain ⟨i, hi⟩ := List.mem_iff_getElem?.1 hmem
  have hbelow : i < Nat.find hex := by
    obtain ⟨hlength, -⟩ := List.getElem?_eq_some_iff.1 hi
    rwa [Stream'.length_take] at hlength
  rw [Stream'.getElem?_take hbelow] at hi
  rw [← Option.some.inj hi]
  exact eq_true_of_ne_false (Nat.find_min hex hbelow)

/-- **Filling comes back**: after some number of replies it has ended, and more change nothing. -/
theorem fill_comes_back (buffer : Buffer) {stream : Stream' Reply} (h : Answers stream) :
    ∃ count, (buffer.fill (stream.take count)).outcome ≠ .waits := by
  -- every reply but an interruption ends filling or leaves less room
  induction hroom : buffer.free.length using Nat.strongRecOn generalizing buffer stream with
  | ind room ih =>
    by_cases hfree : buffer.free = []
    · exact ⟨0, by rw [fill_full hfree]; simp⟩
    have hpos : 0 < buffer.free.length := List.length_pos_iff.2 hfree
    obtain ⟨j, hbefore, hreply⟩ := h.first
    have hasks : Asks buffer.free.length (stream.take j) := by
      refine ⟨fun reply hmem => ?_, by rwa [deliveries_interrupted hbefore]⟩
      have hinterrupted := hbefore reply hmem
      cases reply with
      | ok delivered => cases hinterrupted
      | error fault => exact hinterrupted
    have hread (count : Nat) : buffer.fill (stream.take (j + (count + 1))) =
        buffer.fill (stream.get j :: (stream.drop (j + 1)).take count) := by
      rw [take_add, fill_append hasks, deliveries_interrupted hbefore, place_nil, Stream'.take_succ]
      simp
    cases hgoes : goesOn (stream.get j) with
    | true =>
      have hbytes : 0 < (bytesOf (stream.get j)).length := by
        generalize stream.get j = reply at hreply hgoes
        cases reply with
        | ok delivered => simpa [goesOn, bytesOf, List.length_pos_iff] using hgoes
        | error fault => exact absurd (hgoes.symm.trans hreply) (by decide)
      obtain ⟨count, hcount⟩ := ih _ (by rw [← hroom, place_free_length]; omega)
        (buffer.place (bytesOf (stream.get j))) (h.drop (j + 1)) rfl
      exact ⟨j + (count + 1), by rwa [hread, fill_goesOn hpos hgoes]⟩
    | false =>
      refine ⟨j + (0 + 1), ?_⟩
      rw [hread]
      rcases ends_of_not_goesOn hgoes with hend | ⟨fault, hend, hfault⟩ <;> rw [hend]
      · rw [fill_closed hpos]
        simp
      · rw [fill_broken hpos hfault]
        simp

end BlockProbe.Probe
