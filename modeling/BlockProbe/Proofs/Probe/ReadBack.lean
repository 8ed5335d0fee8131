/-
Reading a target back.

Reading back opens the target and fills a buffer of zeros, which is then cut to what was filled. What comes back is the
beginning of what the source carries, as much of it as was asked for.

- `readBack_fill`: reading back is filling.
- `readBack_content`: what is read back of some content.
- `filling_collects`: everything about filling, and what it makes of reading back.
-/
import BlockProbe.Proofs.Probe.Filling
import BlockProbe.Proofs.Probe.OnTree

namespace BlockProbe.Probe

open BlockProbe.Files (Attempt Fault Location Tree Names retried)

variable {buffer : Buffer} {script : List Reply}

/-! ## Reading back -/

/-- filling counts what it filled -/
theorem fill_done {n : Nat} (h : (buffer.fill script).outcome = .done n) :
    n = (buffer.fill script).buffer.filled.length := by
  obtain ⟨taken, hreading⟩ := fill_reading buffer script
  have hended := hreading.ended
  rw [h] at hended
  rw [hreading.holds]
  cases hended with
  | full hn _ _ => exact hn
  | closed hn _ _ => exact hn

/-- reading back fills a buffer of zeros, and cuts it to the bytes that are filled -/
theorem readBack_fill {source : Source} (path : String) (count : Nat) (hopen : retried source.opens = .done ()) :
    let filling := (Buffer.holding (List.replicate count 0)).fill source.reads
    readBack path source count = (failing path .read filling.outcome).bind fun n =>
      .done { requested := count, data := filling.buffer.bytes.take n } := by
  intro filling
  have hcollect : collect count source.reads = filling.outcome.bind fun _ => .done filling.buffer.filled := by
    have hloop := collect_fill (Buffer.holding (List.replicate count 0)) source.reads
    have hlength : (Buffer.holding (List.replicate count 0)).free.length = count := List.length_replicate
    rw [hlength] at hloop
    rw [← hloop]
    cases collect count source.reads <;> rfl
  unfold readBack
  rw [hopen, hcollect]
  show (failing path .read (filling.outcome.bind _)).bind _ = _
  cases houtcome : filling.outcome with
  | done n =>
    have hn : n = filling.buffer.filled.length := fill_done houtcome
    have hdata : filling.buffer.bytes.take n = filling.buffer.filled := by rw [hn, Buffer.bytes, List.take_left]
    simp only [failing, Attempt.bind, Attempt.mapError, hdata]
    rfl
  | failed fault => rfl
  | waits => rfl

/-- **What is read back** of a source that carries some content and is at its end behind it. -/
theorem readBack_content {source : Source} (path : String) (count : Nat) {content : List UInt8}
    (hopen : retried source.opens = .done ()) (hcontent : carried source.reads = (content, .closed)) :
    readBack path source count = .done { requested := count, data := content.take count } := by
  have hfill := fill_carried (Buffer.holding (List.replicate count 0)) source.reads
  have hplaced : ((Buffer.holding (List.replicate count 0)).place content).filled = content.take count := by
    simp [Buffer.holding, Buffer.place]
  have hafter : (Buffer.holding (List.replicate count 0)).after (content, .closed) =
      (.done (content.take count).length, (Buffer.holding (List.replicate count 0)).place content) := by
    rw [← hplaced]
    unfold Buffer.after
    split_ifs <;> rfl
  rw [hcontent, hafter, Prod.mk.injEq] at hfill
  rw [readBack_fill path count hopen, hfill.1, hfill.2, Buffer.bytes, hplaced]
  simp only [failing, Attempt.mapError, Attempt.bind, List.take_left]

/-! ## The whole -/

/-- What filling a buffer that holds `bytes` makes of a script. -/
structure Collects (bytes : List UInt8) (script : List Reply) (filling : Filling) : Prop where
  /-- the replies that are taken, each while there is room and nothing has ended the script: what they deliver is at the
  front of the buffer, and the rest of it is as it was; fewer bytes than there is room for come of the end only -/
  taken : ∃ taken, script = taken ++ filling.unread ∧
    (∀ front reply back, taken = front ++ reply :: back → Asks bytes.length front) ∧
    filling.buffer.bytes = deliveries taken ++ bytes.drop (deliveries taken).length ∧
    ∀ n, filling.outcome = .done n →
      n = (deliveries taken).length ∧ n ≤ bytes.length ∧ (n < bytes.length → taken.getLast? = some (.ok []))
  failed (fault : Fault) : filling.outcome = .failed fault ↔ ∃ front back, script = front ++ .error fault :: back ∧
    fault.isInterruption = false ∧ Asks bytes.length front
  /-- it never comes back only where a read that is made has no reply -/
  waits : filling.outcome = .waits ↔ Asks bytes.length script
  nothing : bytes = [] → filling.unread = script ∧ filling.outcome = .done 0

theorem fill_collects {bytes : List UInt8} (h : Fits bytes.length script) :
    Collects bytes script ((Buffer.holding bytes).fill script) where
  taken := by
    obtain ⟨taken, hreading⟩ := fill_reading (Buffer.holding bytes) script
    have hlength : (deliveries taken).length ≤ bytes.length :=
      Fits.taken_le (hreading.script ▸ h) hreading.asked
    obtain ⟨hfilled, hbytes⟩ := place_bytes (Buffer.holding bytes) hlength
    refine ⟨taken, hreading.script, hreading.asked, by rw [hreading.holds, hbytes]; rfl, fun n hn => ?_⟩
    have hcount : n = (deliveries taken).length := by
      rw [fill_done hn, hreading.holds, hfilled]
      rfl
    refine ⟨hcount, hcount ▸ hlength, fun hless => ?_⟩
    have hended := hreading.ended
    rw [hn] at hended
    cases hended with
    | full _ _ hfull => exact absurd (Nat.lt_of_lt_of_le hless hfull) (by omega)
    | closed _ front htaken => simp [htaken]
  failed _ := fill_failed_iff
  waits := fill_waits_iff
  nothing hempty := by
    subst hempty
    rw [fill_full rfl]
    exact ⟨rfl, rfl⟩

/-- Filling collects what a source delivers, however it is delivered. -/
structure FillingCollects : Prop where
  exactly (bytes : List UInt8) (script : List Reply) : Fits bytes.length script →
    Collects bytes script ((Buffer.holding bytes).fill script)
  /-- only the bytes that a script carries and its ending matter -/
  sameStream (bytes : List UInt8) (first second : List Reply) : carried first = carried second →
    ((Buffer.holding bytes).fill first).outcome = ((Buffer.holding bytes).fill second).outcome ∧
    ((Buffer.holding bytes).fill first).buffer = ((Buffer.holding bytes).fill second).buffer
  /-- neither an interruption nor a cut changes what a script carries -/
  interrupted (front back : List Reply) (fault : Fault) : fault.isInterruption = true →
    carried (front ++ .error fault :: back) = carried (front ++ back)
  cut (front back : List Reply) (first second : List UInt8) : first ≠ [] → second ≠ [] →
    carried (front ++ .ok first :: .ok second :: back) = carried (front ++ .ok (first ++ second) :: back)
  /-- if interruptions always come to an end, filling ends after some number of replies, and more change nothing -/
  comesBack (bytes : List UInt8) (stream : Stream' Reply) : Answers stream →
    ∃ count, ((Buffer.holding bytes).fill (stream.take count)).outcome ≠ .waits ∧
      ∀ more, count ≤ more →
        ((Buffer.holding bytes).fill (stream.take more)).outcome =
          ((Buffer.holding bytes).fill (stream.take count)).outcome ∧
        ((Buffer.holding bytes).fill (stream.take more)).buffer =
          ((Buffer.holding bytes).fill (stream.take count)).buffer
  /-- reading back is this loop, on a buffer of zeros that is cut to what was filled -/
  loop (path : String) (source : Source) (count : Nat) : retried source.opens = .done () →
    let filling := (Buffer.holding (List.replicate count 0)).fill source.reads
    readBack path source count = (failing path .read filling.outcome).bind fun n =>
      .done { requested := count, data := filling.buffer.bytes.take n }
  content (path : String) (source : Source) (count : Nat) (content : List UInt8) :
    retried source.opens = .done () → carried source.reads = (content, .closed) →
    readBack path source count = .done { requested := count, data := content.take count }
  /-- of a file that the process may read, it is the beginning -/
  file (tree : Tree) (start location : Location) (path : String) (mode : UInt32) (content : List UInt8) (count : Nat) :
    Names tree start path location → tree.get? location = some (.file mode content) →
    readFrom tree start path count =
      if tree.caller.mayOpen .read location (.file mode content)
      then .done { requested := count, data := content.take count }
      else .failed { path, failure := .call .opening .accessDenied }

/-- **Filling collects the stream exactly.** -/
theorem filling_collects : FillingCollects where
  exactly _ _ h := fill_collects h
  sameStream bytes first second h := by
    have hfirst := fill_carried (Buffer.holding bytes) first
    rw [h, ← fill_carried (Buffer.holding bytes) second] at hfirst
    exact Prod.mk.inj hfirst
  interrupted front back _ h := carried_interrupted front h back
  cut front back _ _ hfirst hsecond := carried_cut front hfirst hsecond back
  comesBack bytes stream h := by
    obtain ⟨count, hcount⟩ := fill_comes_back (Buffer.holding bytes) h
    refine ⟨count, hcount, fun more hmore => ?_⟩
    obtain ⟨extra, rfl⟩ := Nat.exists_eq_add_of_le hmore
    rw [take_add, fill_more hcount]
    exact ⟨rfl, rfl⟩
  loop path _ count hopen := readBack_fill path count hopen
  content path _ count _ hopen hcontent := readBack_content path count hopen hcontent
  file tree _ location path mode content count hnames hfile := by
    cases hopen : tree.caller.mayOpen .read location (.file mode content) with
    | true => exact readBack_of_names hnames hfile hopen path count
    | false => exact readBack_of_closed hnames hfile hopen path count

/-! A source that gives the payload four bytes at a time, after an interruption, and one that is at its end early. -/

def trickle : List Reply := [
  .error (.ofKind .interrupted), .ok (payload.take 4), .ok ((payload.drop 4).take 4), .ok ((payload.drop 8).take 4),
  .ok (payload.drop 12)]

theorem trickle_fits : Fits 15 trickle :=
  .cons (by decide) (.cons (by decide) (.cons (by decide) (.cons (by decide) (.cons (by decide) (fits_nil _)))))

theorem trickle_collected :
    Collects (List.replicate 15 0) trickle ((Buffer.holding (List.replicate 15 0)).fill trickle) ∧
    ((Buffer.holding (List.replicate 15 0)).fill trickle).outcome = .done 15 ∧
    readBack "t" { opens := [.ok ()], reads := [.ok (payload.take 2), .ok ((payload.drop 2).take 3), .ok []] } 15 =
      .done { requested := 15, data := payload.take 5 } := by
  have hsame : carried trickle = carried [.ok payload] := by decide
  have hwhole : ((Buffer.holding (List.replicate 15 0)).fill [.ok payload]).outcome = .done 15 := by decide
  refine ⟨filling_collects.exactly _ _ trickle_fits, ?_, ?_⟩
  · rw [(filling_collects.sameStream _ _ _ hsame).1, hwhole]
  · exact filling_collects.content "t" _ 15 (payload.take 5) rfl (by decide)

end BlockProbe.Probe
