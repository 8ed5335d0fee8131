/-
Targets among the files.

How a path of a tree takes the payload and gives it back follows from what opening it comes to. So trees that differ in
contents alone are targets alike: `sinkOf_sameButContents` for the write side, `sourceOf_sameButContents` for the read
side of whatever could be written to. A path that names a file takes any bytes from a process that may write it, and
gives back what the file holds to one that may read it; otherwise the first call that needs the permission fails.
-/
import BlockProbe.Probe.OnTree
import BlockProbe.Proofs.Files.Access
import BlockProbe.Proofs.Probe.Target

namespace BlockProbe.Probe

open BlockProbe.Files

variable {tree : Tree} {start : Location} {path : String} {mode : UInt32} {bytes : List UInt8}

theorem sinkOf_eq (tree : Tree) (start : Location) (path : String) (mode : UInt32) (bytes : List UInt8) :
    sinkOf tree start path mode bytes =
      match tree.opening start path mode with
      | .refused fault => { opens := [.error fault], writes := [], syncs := [] }
      | .waits => { opens := [], writes := [], syncs := [] }
      | .device _ device => {
          opens := [.ok ()], writes := (Node.device device).writes bytes.length, syncs := (Node.device device).syncs }
      | .file _ mode => {
          opens := [.ok ()]
          writes := (Node.file mode []).writes bytes.length
          syncs := (Node.file mode []).syncs } := by
  unfold sinkOf
  rw [Tree.openForWriting_eq]
  cases hopening : tree.opening start path mode with
  | refused fault => rfl
  | waits => rfl
  | device location device => simp only [(Tree.opening_device hopening).2, Option.getD_some]
  | file location now =>
    obtain ⟨_, _, _, hroot⟩ := Tree.opening_file hopening
    simp only [Tree.get?_set_self tree hroot, Option.getD_some]

/-- the source that a node is to a process that may read it, or may not -/
def sourceAt (isOpen : Bool) (node : Node) (count : Nat) : Source :=
  if isOpen then { opens := [.ok ()], reads := node.reads count } else { opens := [.error .accessDenied], reads := [] }

theorem sourceOf_of_openForReading {isOpen : Bool} {node : Node} (count : Nat)
    (h : tree.openForReading start path = if isOpen then .done node else .failed .accessDenied) :
    sourceOf tree start path count = sourceAt isOpen node count := by
  unfold sourceOf sourceAt
  rw [h]
  cases isOpen <;> rfl

/-- what could be opened for writing is given back by the same node -/
theorem sourceOf_eq (count : Nat) :
    (∀ location device, tree.opening start path mode = .device location device →
      sourceOf (tree.afterWriting start path mode bytes) start path count =
        sourceAt (tree.caller.mayOpen .read location (.device device)) (.device device) count) ∧
    (∀ location now, tree.opening start path mode = .file location now →
      sourceOf (tree.afterWriting start path mode bytes) start path count =
        sourceAt (tree.caller.mayOpen .read location (.file now [])) (.file now bytes) count) := by
  constructor
  · intro location device hopening
    exact sourceOf_of_openForReading count (Tree.openForReading_device hopening bytes)
  · intro location now hopening
    -- what a file delivers does not depend on its mode
    exact (sourceOf_of_openForReading count (Tree.openForReading_afterWriting hopening bytes)).trans rfl

/-- a payload that was written was written to a device or a file -/
theorem opening_of_writePayload {options : Options} {name : String}
    (h : writePayload name (sinkOf tree start path mode bytes) bytes options = .done ()) :
    (∃ location device, tree.opening start path mode = .device location device) ∨
      ∃ location now, tree.opening start path mode = .file location now := by
  rw [sinkOf_eq] at h
  cases hopening : tree.opening start path mode with
  | device location device => exact .inl ⟨location, device, rfl⟩
  | file location now => exact .inr ⟨location, now, rfl⟩
  | waits => rw [hopening] at h; cases h
  | refused fault =>
    rw [hopening] at h
    obtain ⟨_, hopen, -⟩ := Attempt.bind_eq_done.1 h
    have hretried := Attempt.mapError_eq_done.1 hopen
    rw [retried] at hretried
    split_ifs at hretried
    cases hretried

/-! ## A path that names a file -/

variable {location : Location}

/-- a file takes all bytes at once -/
theorem writeAll_file (now : UInt32) (content : List UInt8) (count : Nat) :
    writeAll count ((Node.file now content).writes count) = .done () := by
  show writeAll count [.ok count] = .done ()
  by_cases hcount : count = 0
  · simp [writeAll, hcount]
  · simp [writeAll, hcount]

/-- a file gives as much as it holds of what is asked for -/
theorem collect_file (now : UInt32) (content : List UInt8) (count : Nat) :
    collect count ((Node.file now content).reads count) = .done (content.take count) := by
  have hend : ∀ space, collect space [.ok []] = .done [] := by
    intro space
    by_cases hspace : space = 0
    · simp [collect, hspace]
    · simp [collect, hspace]
  show collect count [.ok (content.take count), .ok []] = .done (content.take count)
  by_cases hcount : count = 0
  · simp [collect, hcount]
  · by_cases hempty : (content.take count).isEmpty
    · rw [collect, if_neg hcount]
      rw [List.isEmpty_iff.1 hempty]
      rfl
    · rw [collect, if_neg hcount]
      simp only [if_neg hempty, hend]
      simp [Attempt.bind, List.take_take]

theorem writePayload_of_names (h : Names tree start path location) (hfill : tree.mayFill location = true)
    (name : String) (options : Options) :
    writePayload name (sinkOf tree start path mode bytes) bytes options = .done () := by
  rw [sinkOf_eq, Tree.opening_of_mayFill h hfill]
  unfold writePayload
  dsimp only
  rw [writeAll_file]
  cases options.sync <;> rfl

/-- a path that cannot be opened fails the write -/
theorem writePayload_of_refused {fault : Fault} (h : tree.opening start path mode = .refused fault)
    (hfault : fault.isInterruption = false) (name : String) (options : Options) :
    writePayload name (sinkOf tree start path mode bytes) bytes options =
      .failed { path := name, failure := .call .write fault } := by
  unfold writePayload
  rw [sinkOf_eq, h, failing_refused, hfault]
  rfl

theorem readBack_of_names (h : Names tree start path location) {now : UInt32} {content : List UInt8}
    (hfile : tree.get? location = some (.file now content))
    (hread : tree.caller.mayOpen .read location (.file now content) = true) (name : String) (count : Nat) :
    readBack name (sourceOf tree start path count) count =
      .done { requested := count, data := content.take count } := by
  have hsource := sourceOf_of_openForReading count (Tree.openForReading_of_names h hfile)
  rw [hsource, hread]
  show readBack name { opens := [.ok ()], reads := (Node.file now content).reads count } count = _
  unfold readBack
  rw [collect_file]
  rfl

/-- a file that the process may not read fails the reading -/
theorem readBack_of_closed (h : Names tree start path location) {now : UInt32} {content : List UInt8}
    (hfile : tree.get? location = some (.file now content))
    (hread : tree.caller.mayOpen .read location (.file now content) = false) (name : String) (count : Nat) :
    readBack name (sourceOf tree start path count) count =
      .failed { path := name, failure := .call .opening .accessDenied } := by
  have hsource := sourceOf_of_openForReading count (Tree.openForReading_of_names h hfile)
  rw [hsource, hread]
  rfl

/-- what a process finds in the file that it has written: whether it may read it, and what the file holds -/
theorem written_file (h : Names tree start path location) (hfill : tree.mayFill location = true) (mode : UInt32)
    (bytes : List UInt8) :
    ∃ now, (tree.afterWriting start path mode bytes).get? location = some (.file now bytes) ∧
      (tree.afterWriting start path mode bytes).caller.mayOpen .read location (.file now bytes) =
        tree.mayReadBack location mode := by
  refine ⟨_, (Tree.afterWriting_of_names h hfill mode bytes location).trans (if_pos rfl), ?_⟩
  rw [Tree.afterWriting_caller]
  exact Caller.mayOpen_congr (Caller.writtenMode_permissions _ _ _ _) bytes []

/-- **What is written to a file comes back**, to a process that may write it and read it. -/
theorem roundTrip_of_names (h : Names tree start path location) (hfill : tree.mayFill location = true)
    (hread : tree.mayReadBack location mode = true) (name : String) (options : Options) :
    roundTrip name (targetOf tree start path mode bytes) bytes options =
      .done { requested := bytes.length, data := bytes } := by
  obtain ⟨now, hfile, hopen⟩ := written_file h hfill mode bytes
  have hnames := (names_sameButFiles (Tree.sameButFiles_afterWriting tree start path mode bytes)).1 h
  have hback := readBack_of_names hnames hfile (hopen.trans hread) name bytes.length
  rw [List.take_length] at hback
  unfold roundTrip targetOf
  rw [writePayload_of_names h hfill, Attempt.done_bind]
  exact hback

/-- and to a process that may only write it, nothing comes back -/
theorem roundTrip_of_unreadable (h : Names tree start path location) (hfill : tree.mayFill location = true)
    (hread : tree.mayReadBack location mode = false) (name : String) (options : Options) :
    roundTrip name (targetOf tree start path mode bytes) bytes options =
      .failed { path := name, failure := .call .opening .accessDenied } := by
  obtain ⟨now, hfile, hopen⟩ := written_file h hfill mode bytes
  have hnames := (names_sameButFiles (Tree.sameButFiles_afterWriting tree start path mode bytes)).1 h
  unfold roundTrip targetOf
  rw [writePayload_of_names h hfill, Attempt.done_bind]
  exact readBack_of_closed hnames hfile (hopen.trans hread) name bytes.length

/-- a process that may not write a file gets no further -/
theorem roundTrip_of_closed (h : Names tree start path location) (hfill : tree.mayFill location = false)
    (name : String) (options : Options) :
    roundTrip name (targetOf tree start path mode bytes) bytes options =
      .failed { path := name, failure := .call .write .accessDenied } := by
  unfold roundTrip targetOf
  rw [writePayload_of_refused (Tree.opening_of_closed h hfill mode) rfl]
  rfl

/-- **The same target again.** A file that was written and may be written again takes the bytes as it did before, and
gives them back, or does not, as before. -/
theorem targetOf_again (h : Names tree start path location) (hfill : tree.mayFill location = true)
    (hagain : (tree.afterWriting start path mode bytes).mayFill location = true) (hbytes : bytes ≠ []) :
    targetOf (tree.afterWriting start path mode bytes) start path mode bytes = targetOf tree start path mode bytes := by
  have hnames := (names_sameButFiles (Tree.sameButFiles_afterWriting tree start path mode bytes)).1 h
  unfold targetOf
  rw [Tree.afterWriting_again h mode hbytes, sinkOf_eq, sinkOf_eq, Tree.opening_of_mayFill hnames hagain,
    Tree.opening_of_mayFill h hfill]
  rfl

/-! ## Two trees -/

variable {first second : Tree}

theorem sinkOf_sameButContents (h : first.SameButContents second) (start : Location) (path : String) (mode : UInt32)
    (bytes : List UInt8) : sinkOf first start path mode bytes = sinkOf second start path mode bytes := by
  rw [sinkOf_eq, sinkOf_eq, Tree.opening_sameButContents h]

theorem sourceOf_sameButContents (h : first.SameButContents second) {options : Options} {name : String}
    (hwritten : writePayload name (sinkOf first start path mode bytes) bytes options = .done ()) (count : Nat) :
    sourceOf (first.afterWriting start path mode bytes) start path count =
      sourceOf (second.afterWriting start path mode bytes) start path count := by
  have heq := Tree.opening_sameButContents h start path mode
  rcases opening_of_writePayload hwritten with ⟨location, device, hopening⟩ | ⟨location, now, hopening⟩
  · rw [(sourceOf_eq count).1 location device hopening, (sourceOf_eq count).1 location device (heq ▸ hopening),
      h.caller]
  · rw [(sourceOf_eq count).2 location now hopening, (sourceOf_eq count).2 location now (heq ▸ hopening), h.caller]

end BlockProbe.Probe
