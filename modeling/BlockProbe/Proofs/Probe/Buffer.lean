/-
A buffer that is read into.

Reads are made until the buffer is full or the source is at its end. Each is offered what is free of the buffer and
delivers into the front of that; an interrupted read is made again, and any other fault ends the filling. `collect` is
the same loop without the buffer: it keeps the bytes that were delivered and nothing else.

- `Buffer.fill`: how filling ends, the buffer then, and the replies that were never asked for.
- `fill_full`, `fill_goesOn`, `fill_closed`, `fill_broken`: what one reply does.
- `collect_fill`: collecting is filling.
-/
import BlockProbe.Probe.Target

namespace BlockProbe.Probe

open BlockProbe.Files (Attempt Fault)

/-- what a read comes to: the bytes it delivered, none at the end -/
abbrev Reply := Except Fault (List UInt8)

/-- a buffer, divided where it is filled up to -/
structure Buffer where
  filled : List UInt8
  free : List UInt8
deriving DecidableEq, Repr

namespace Buffer

/-- a buffer that nothing was delivered to -/
def holding (bytes : List UInt8) : Buffer := { filled := [], free := bytes }

/-- everything in the buffer -/
def bytes (buffer : Buffer) : List UInt8 := buffer.filled ++ buffer.free

/-- a delivery goes to the front of what is free, cut to its size -/
def place (buffer : Buffer) (delivered : List UInt8) : Buffer where
  filled := buffer.filled ++ delivered.take buffer.free.length
  free := buffer.free.drop delivered.length

end Buffer

/-- how filling ended, with how many bytes are filled; the buffer then; the replies not asked for -/
structure Filling where
  outcome : Attempt Fault Nat
  buffer : Buffer
  unread : List Reply

/-- read until the buffer is full or the source is at its end -/
def Buffer.fill (buffer : Buffer) : List Reply → Filling
  | [] => { outcome := if buffer.free.isEmpty then .done buffer.filled.length else .waits, buffer, unread := [] }
  | reply :: rest =>
    if buffer.free.isEmpty then { outcome := .done buffer.filled.length, buffer, unread := reply :: rest }
    else
      match reply with
      | .ok delivered =>
        if delivered.isEmpty then { outcome := .done buffer.filled.length, buffer, unread := rest }
        else (buffer.place delivered).fill rest
      | .error fault =>
        if fault.isInterruption then buffer.fill rest else { outcome := .failed fault, buffer, unread := rest }

/-- may reading go on behind the reply? -/
def goesOn : Reply → Bool
  | .ok delivered => !delivered.isEmpty
  | .error fault => fault.isInterruption

/-- the bytes of a reply -/
def bytesOf : Reply → List UInt8
  | .ok delivered => delivered
  | .error _ => []

variable {buffer : Buffer} {reply : Reply} {delivered : List UInt8}

/-! ## Placing -/

@[simp] theorem place_nil (buffer : Buffer) : buffer.place [] = buffer := by
  simp [Buffer.place]

/-- deliveries go one behind the other -/
theorem place_place (buffer : Buffer) (first second : List UInt8) :
    (buffer.place first).place second = buffer.place (first ++ second) := by
  simp [Buffer.place, List.take_append]

@[simp] theorem place_free_length (buffer : Buffer) (delivered : List UInt8) :
    (buffer.place delivered).free.length = buffer.free.length - delivered.length := List.length_drop

/-- a full buffer stays as it is -/
theorem place_full (h : buffer.free = []) (delivered : List UInt8) : buffer.place delivered = buffer := by
  obtain ⟨filled, free⟩ := buffer
  cases h
  simp [Buffer.place]

/-- what fits is in the buffer whole, with the old contents behind it -/
theorem place_bytes (buffer : Buffer) (h : delivered.length ≤ buffer.free.length) :
    (buffer.place delivered).filled = buffer.filled ++ delivered ∧
      (buffer.place delivered).bytes = buffer.filled ++ delivered ++ buffer.free.drop delivered.length := by
  have htake : delivered.take buffer.free.length = delivered := List.take_of_length_le h
  simp [Buffer.place, Buffer.bytes, htake]

/-! ## One reply -/

theorem fill_full (h : buffer.free = []) (script : List Reply) :
    buffer.fill script = { outcome := .done buffer.filled.length, buffer, unread := script } := by
  cases script <;> simp [Buffer.fill, h]

theorem fill_goesOn (hroom : 0 < buffer.free.length) (h : goesOn reply = true) (rest : List Reply) :
    buffer.fill (reply :: rest) = (buffer.place (bytesOf reply)).fill rest := by
  have hfree : buffer.free.isEmpty = false := by simpa using List.ne_nil_of_length_pos hroom
  cases reply with
  | ok delivered =>
    have hsome : delivered.isEmpty = false := by simpa [goesOn] using h
    simp [Buffer.fill, hfree, hsome, bytesOf]
  | error fault =>
    have hagain : fault.isInterruption = true := h
    simp [Buffer.fill, hfree, hagain, bytesOf]

theorem fill_closed (hroom : 0 < buffer.free.length) (rest : List Reply) :
    buffer.fill (.ok [] :: rest) = { outcome := .done buffer.filled.length, buffer, unread := rest } := by
  have hfree : buffer.free.isEmpty = false := by simpa using List.ne_nil_of_length_pos hroom
  simp [Buffer.fill, hfree]

theorem fill_broken (hroom : 0 < buffer.free.length) {fault : Fault} (h : fault.isInterruption = false)
    (rest : List Reply) :
    buffer.fill (.error fault :: rest) = { outcome := .failed fault, buffer, unread := rest } := by
  have hfree : buffer.free.isEmpty = false := by simpa using List.ne_nil_of_length_pos hroom
  simp [Buffer.fill, hfree, h]

/-- a reply that nothing goes on behind is the end or a fault -/
theorem ends_of_not_goesOn (h : goesOn reply = false) :
    reply = .ok [] ∨ ∃ fault, reply = .error fault ∧ fault.isInterruption = false := by
  cases reply with
  | ok delivered =>
    refine .inl (congrArg Except.ok ?_)
    simpa [goesOn] using h
  | error fault => exact .inr ⟨fault, rfl, h⟩

/-! ## The loop without the buffer -/

theorem collect_full (script : List Reply) : collect 0 script = .done [] := by
  cases script with
  | nil => rfl
  | cons reply rest => cases reply <;> simp [collect]

theorem collect_goesOn {space : Nat} (hroom : 0 < space) (h : goesOn reply = true) (rest : List Reply) :
    collect space (reply :: rest) = (collect (space - (bytesOf reply).length) rest).bind fun more =>
      .done ((bytesOf reply).take space ++ more) := by
  have hspace : space ≠ 0 := Nat.ne_of_gt hroom
  cases reply with
  | ok delivered =>
    have hsome : ¬ delivered.isEmpty = true := by simpa [goesOn] using h
    rw [collect, if_neg hspace]
    exact if_neg hsome
  | error fault =>
    have hagain : fault.isInterruption = true := h
    rw [collect, if_neg hspace]
    simp only [hagain, if_true, bytesOf, List.length_nil, Nat.sub_zero, List.take_nil, List.nil_append]
    cases collect space rest <;> rfl

theorem collect_closed {space : Nat} (hroom : 0 < space) (rest : List Reply) :
    collect space (.ok [] :: rest) = .done [] := by
  rw [collect, if_neg (Nat.ne_of_gt hroom)]
  rfl

theorem collect_broken {space : Nat} (hroom : 0 < space) {fault : Fault} (h : fault.isInterruption = false)
    (rest : List Reply) : collect space (.error fault :: rest) = .failed fault := by
  rw [collect, if_neg (Nat.ne_of_gt hroom)]
  simp only [h, Bool.false_eq_true, if_false]

/-- no more is collected than there is room for, however much is delivered at once -/
theorem collect_length_le {space : Nat} {script : List Reply} {data : List UInt8}
    (h : collect space script = .done data) : data.length ≤ space := by
  induction script generalizing space data with
  | nil =>
    by_cases hspace : space = 0
    · rw [collect, if_pos hspace] at h
      cases h
      exact Nat.zero_le space
    · rw [collect, if_neg hspace] at h
      cases h
  | cons reply rest ih =>
    rcases Nat.eq_zero_or_pos space with rfl | hroom
    · rw [collect_full] at h
      cases h
      exact Nat.le_refl 0
    cases hreply : goesOn reply with
    | true =>
      rw [collect_goesOn hroom hreply] at h
      cases hrest : collect (space - (bytesOf reply).length) rest with
      | done more =>
        rw [hrest] at h
        cases h
        have hmore := ih hrest
        rw [List.length_append, List.length_take]
        omega
      | failed fault => rw [hrest] at h; cases h
      | waits => rw [hrest] at h; cases h
    | false =>
      rcases ends_of_not_goesOn hreply with rfl | ⟨fault, rfl, hfault⟩
      · rw [collect_closed hroom] at h
        cases h
        exact Nat.zero_le space
      · rw [collect_broken hroom hfault] at h
        cases h

/-- **Collecting is filling**, of which it keeps what is filled. -/
theorem collect_fill (buffer : Buffer) (script : List Reply) :
    (collect buffer.free.length script).bind (fun more => .done (buffer.filled ++ more)) =
      (buffer.fill script).outcome.bind fun _ => .done (buffer.fill script).buffer.filled := by
  induction script generalizing buffer with
  | nil =>
    by_cases hfree : buffer.free = []
    · simp [fill_full hfree, collect, hfree, Attempt.bind]
    · simp [collect, Buffer.fill, hfree, Attempt.bind]
  | cons reply rest ih =>
    by_cases hfree : buffer.free = []
    · simp [fill_full hfree, collect_full, hfree, Attempt.bind]
    have hroom : 0 < buffer.free.length := List.length_pos_iff.2 hfree
    cases hreply : goesOn reply with
    | true =>
      have hbehind := ih (buffer.place (bytesOf reply))
      rw [place_free_length] at hbehind
      rw [collect_goesOn hroom hreply, fill_goesOn hroom hreply, ← hbehind]
      cases collect (buffer.free.length - (bytesOf reply).length) rest <;> simp [Attempt.bind, Buffer.place]
    | false =>
      rcases ends_of_not_goesOn hreply with rfl | ⟨fault, rfl, hfault⟩
      · rw [collect_closed hroom, fill_closed hroom]
        simp [Attempt.bind]
      · rw [collect_broken hroom hfault, fill_broken hroom hfault]
        rfl

end BlockProbe.Probe
