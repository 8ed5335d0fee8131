/-
What writing to a path does to a tree.

`Opening` is what opening a path for writing comes to: it is refused, or waits, or meets a device, or there is a file
from then on. Everything about writing is a function of it, and it does not depend on what files hold.

- `opensAt`: where a path leads, by how it opens.
- `get?_afterWriting`: what is anywhere after writing.
- `openForReading_afterWriting`: a path is read where it was written, by a process that may read it.
- `mayFill`, `mayReadBack`: may the file at a location be written, and read afterwards?
- `afterWriting_of_names`, `afterWriting_of_not_names`, `afterWriting_of_closed`: the file a path names is written by a
  process that may, or nothing is.
- `replaced_of_names`, `created_of_names`: what there is then, by whether the file was there.
- `opening_of_not_names`: among files, directories and links, a path that names no file is refused.
- `afterWriting_again`: bytes that are written a second time change nothing.
- `readText_sameBut`: a text is read as before unless its path names the file that was written.
- `opening_sameButContents`: trees that differ in contents alone are opened alike.
-/
import BlockProbe.Files.Access
import BlockProbe.Proofs.Files.Caller
import BlockProbe.Proofs.Files.Names
import BlockProbe.Proofs.Results

namespace BlockProbe.Files

/-- what opening a path for writing comes to; a file has lost its content and has this mode now -/
inductive Opening where
  | refused (fault : Fault)
  | waits
  | device (location : Location) (device : Device)
  | file (location : Location) (mode : UInt32)
deriving DecidableEq

/-- what is wrong with a path is not mended by trying again -/
theorem isInterruption_of_mem {fault : Fault} (h : fault ∈ lookUpFaults) : fault.isInterruption = false := by
  have hall : ∀ fault ∈ lookUpFaults, fault.isInterruption = false := by decide
  exact hall fault h

namespace Tree

variable {tree : Tree} {start location : Location} {path : String} {mode now : UInt32}

/-- what opening a path for writing comes to -/
def opening (tree : Tree) (start : Location) (path : String) (mode : UInt32) : Opening :=
  match resolve tree .create start path with
  | .error fault => .refused fault
  | .ok (.free location) =>
    if tree.caller.adds location.dropLast then .file location (tree.caller.createdMode location mode)
    else .refused .accessDenied
  | .ok (.existing location (.file old content)) =>
    if tree.caller.mayOpen .write location (.file old content)
    then .file location (tree.caller.modeAfterChange location old)
    else .refused .accessDenied
  | .ok (.existing location (.device device)) =>
    if tree.caller.mayOpen .write location (.device device) then .device location device else .refused .accessDenied
  | .ok (.existing location .pipe) =>
    if tree.caller.mayOpen .write location .pipe then .waits else .refused .accessDenied
  | .ok (.existing _ .directory) => .refused .isDirectory
  | .ok (.existing _ (.link _)) => .refused .linkLoop

theorem openForWriting_eq (tree : Tree) (start : Location) (path : String) (mode : UInt32) :
    tree.openForWriting start path mode =
      match tree.opening start path mode with
      | .refused fault => .failed fault
      | .waits => .waits
      | .device location _ => .done (tree, location)
      | .file location mode => .done (tree.set location (.file mode []), location) := by
  unfold openForWriting opening
  cases resolve tree .create start path with
  | error fault => rfl
  | ok place =>
    cases place with
    | free location =>
      dsimp only
      split_ifs <;> rfl
    | existing location node =>
      cases hopen : tree.caller.mayOpen .write location node <;> cases node <;> simp [hopen]

/-- where a path leads that opens so -/
inductive OpensAt (tree : Tree) (start : Location) (path : String) : Opening → Prop
  | refused (fault : Fault) : OpensAt tree start path (.refused fault)
  | waits : OpensAt tree start path .waits
  | device {location : Location} {device : Device}
    (hresolve : resolve tree .create start path = .ok (.existing location (.device device)))
    (hdevice : tree.get? location = some (.device device)) : OpensAt tree start path (.device location device)
  | file {location : Location} {place : Place} (now : UInt32) (hresolve : resolve tree .create start path = .ok place)
    (htakes : place.Takes location) (hroot : location ≠ []) : OpensAt tree start path (.file location now)

theorem opensAt (tree : Tree) (start : Location) (path : String) (mode : UInt32) :
    OpensAt tree start path (tree.opening start path mode) := by
  unfold opening
  cases hresolve : resolve tree .create start path with
  | error fault => exact .refused fault
  | ok place =>
    have hplace := resolve_at hresolve
    cases place with
    | free location =>
      dsimp only
      split_ifs
      · exact .file _ hresolve (.inl rfl) hplace.1
      · exact .refused _
    | existing location node =>
      cases node with
      | file old content =>
        dsimp only
        split_ifs
        · rcases hplace with hdirectory | ⟨hroot, -⟩
          · cases hdirectory
          · exact .file _ hresolve (.inr ⟨old, content, rfl⟩) hroot
        · exact .refused _
      | device device =>
        dsimp only
        split_ifs
        · rcases hplace with hdirectory | ⟨-, hdevice⟩
          · cases hdirectory
          · exact .device hresolve hdevice
        · exact .refused _
      | pipe =>
        dsimp only
        split_ifs
        · exact .waits
        · exact .refused _
      | directory => exact .refused _
      | link target => exact .refused _

/-- a path that opens as a file leads to a place where a file can be put -/
theorem opening_file (h : tree.opening start path mode = .file location now) :
    ∃ place, resolve tree .create start path = .ok place ∧ place.Takes location ∧ location ≠ [] := by
  have hopens := opensAt tree start path mode
  rw [h] at hopens
  cases hopens with
  | file _ hresolve htakes hroot => exact ⟨_, hresolve, htakes, hroot⟩

/-- a path that opens as a device leads to it -/
theorem opening_device {device : Device} (h : tree.opening start path mode = .device location device) :
    resolve tree .create start path = .ok (.existing location (.device device)) ∧
      tree.get? location = some (.device device) := by
  have hopens := opensAt tree start path mode
  rw [h] at hopens
  cases hopens with
  | device hresolve hdevice => exact ⟨hresolve, hdevice⟩

/-! ## After writing -/

/-- a file that holds something is filled anew -/
theorem fill_set (tree : Tree) (hroot : location ≠ []) (old : UInt32) (content bytes : List UInt8) :
    (tree.set location (.file old content)).fill location bytes =
      tree.set location (.file (tree.caller.writtenMode location old bytes) bytes) := by
  unfold fill
  simp only [get?_set_self tree hroot, set_set]
  rfl

/-- a file that is written bit by bit is what it would be if written at once -/
theorem fill_more (tree : Tree) (hroot : location ≠ []) (now : UInt32) {bytes more : List UInt8}
    (h : more = [] → bytes = []) :
    (tree.set location (.file (tree.caller.writtenMode location now bytes) bytes)).fill location more =
      tree.set location (.file (tree.caller.writtenMode location now more) more) := by
  rw [fill_set tree hroot, Caller.writtenMode_writtenMode _ _ now h]

/-- a file is emptied and filled -/
theorem afterWriting_of_file (h : tree.opening start path mode = .file location now) (bytes : List UInt8) :
    tree.afterWriting start path mode bytes =
      tree.set location (.file (tree.caller.writtenMode location now bytes) bytes) := by
  obtain ⟨_, _, _, hroot⟩ := opening_file h
  unfold afterWriting
  rw [openForWriting_eq, h]
  exact fill_set tree hroot now [] bytes

/-- where there is no file to write to, nothing changes -/
theorem afterWriting_of_not_file (h : ∀ location now, tree.opening start path mode ≠ .file location now)
    (bytes : List UInt8) : tree.afterWriting start path mode bytes = tree := by
  unfold afterWriting
  rw [openForWriting_eq]
  cases hopening : tree.opening start path mode with
  | refused fault => rfl
  | waits => rfl
  | device location device => simp only [fill, (opening_device hopening).2]
  | file location now => exact (h location now hopening).elim

/-- **One file has the bytes, everything else is as it was.** -/
theorem get?_afterWriting (h : tree.opening start path mode = .file location now) (bytes : List UInt8)
    (other : Location) :
    (tree.afterWriting start path mode bytes).get? other =
      if other = location then some (.file (tree.caller.writtenMode location now bytes) bytes)
      else tree.get? other := by
  obtain ⟨_, _, _, hroot⟩ := opening_file h
  rw [afterWriting_of_file h, get?_set _ hroot]

/-- a path that leads to a file opens it for reading, if the process may -/
theorem openForReading_of_file {content : List UInt8}
    (h : resolve tree .use start path = .ok (.existing location (.file mode content))) :
    tree.openForReading start path =
      if tree.caller.mayOpen .read location (.file mode content) then .done (.file mode content)
      else .failed .accessDenied := by
  unfold openForReading
  rw [h]
  cases hopen : tree.caller.mayOpen .read location (.file mode content) <;> simp [hopen]

/-- **What was written is read back** from the file that it was written to, if the process may read that. -/
theorem openForReading_afterWriting (h : tree.opening start path mode = .file location now) (bytes : List UInt8) :
    (tree.afterWriting start path mode bytes).openForReading start path =
      if tree.caller.mayOpen .read location (.file now [])
      then .done (.file (tree.caller.writtenMode location now bytes) bytes)
      else .failed .accessDenied := by
  obtain ⟨place, hcreate, htakes, -⟩ := opening_file h
  have hfilled := resolve_set (resolve_use_of_create hcreate) htakes (tree.caller.writtenMode location now bytes) bytes
  rw [afterWriting_of_file h, openForReading_of_file hfilled, set_caller,
    Caller.mayOpen_congr (Caller.writtenMode_permissions _ _ _ _) bytes []]

/-- a device that is written to is the one that is read -/
theorem openForReading_device {device : Device} (h : tree.opening start path mode = .device location device)
    (bytes : List UInt8) :
    (tree.afterWriting start path mode bytes).openForReading start path =
      if tree.caller.mayOpen .read location (.device device) then .done (.device device)
      else .failed .accessDenied := by
  have hsame := afterWriting_of_not_file (by rw [h]; simp) bytes
  rw [hsame, openForReading, resolve_use_of_create (opening_device h).1]
  cases hopen : tree.caller.mayOpen .read location (.device device) <;> simp [hopen]

/-! ## The file a path names -/

theorem hasPath_iff : tree.hasPath start path = true ↔
    ∃ found node, resolve tree .use start path = .ok (.existing found node) := by
  unfold hasPath
  cases resolve tree .use start path with
  | error fault => simp
  | ok place => cases place <;> simp

/-- may the file at a location be written, or created if there is none? -/
def mayFill (tree : Tree) (location : Location) : Bool :=
  match tree.get? location with
  | some node => tree.caller.mayOpen .write location node
  | none => tree.caller.adds location.dropLast

/-- the mode a file has once it is opened for writing: an old one has changed, a new one gets what is asked for -/
def openedMode (tree : Tree) (location : Location) (requested : UInt32) : UInt32 :=
  match tree.get? location with
  | some (.file mode _) => tree.caller.modeAfterChange location mode
  | _ => tree.caller.createdMode location requested

/-- may the file at a location be read once it is written, if a new one is to have the requested mode? -/
def mayReadBack (tree : Tree) (location : Location) (requested : UInt32) : Bool :=
  tree.caller.mayOpen .read location (.file (tree.openedMode location requested) [])

theorem mayFill_of_file {old : UInt32} {content : List UInt8} (h : tree.get? location = some (.file old content)) :
    tree.mayFill location = tree.caller.mayOpen .write location (.file old content) := by
  unfold mayFill
  rw [h]

theorem mayFill_of_free (h : tree.get? location = none) :
    tree.mayFill location = tree.caller.adds location.dropLast := by
  unfold mayFill
  rw [h]

theorem openedMode_of_file {old : UInt32} {content : List UInt8} (h : tree.get? location = some (.file old content))
    (requested : UInt32) : tree.openedMode location requested = tree.caller.modeAfterChange location old := by
  unfold openedMode
  rw [h]

theorem openedMode_of_free (h : tree.get? location = none) (requested : UInt32) :
    tree.openedMode location requested = tree.caller.createdMode location requested := by
  unfold openedMode
  rw [h]

/-- **Opening the file a path names** comes to that file, if the process may write it, and is refused otherwise. -/
theorem opening_of_names (h : Names tree start path location) (mode : UInt32) :
    tree.opening start path mode =
      if tree.mayFill location then .file location (tree.openedMode location mode) else .refused .accessDenied := by
  obtain ⟨place, hresolve, htakes⟩ := names_iff_create.1 h
  have hplace := resolve_at hresolve
  unfold opening
  rcases htakes with rfl | ⟨old, content, rfl⟩
  · rw [hresolve, mayFill_of_free hplace.2, openedMode_of_free hplace.2]
  · rcases hplace with hdirectory | ⟨-, hsome⟩
    · cases hdirectory
    · rw [hresolve, mayFill_of_file hsome, openedMode_of_file hsome]

theorem opening_of_mayFill (h : Names tree start path location) (hfill : tree.mayFill location = true)
    (mode : UInt32) : tree.opening start path mode = .file location (tree.openedMode location mode) :=
  (opening_of_names h mode).trans (if_pos hfill)

theorem opening_of_closed (h : Names tree start path location) (hfill : tree.mayFill location = false)
    (mode : UInt32) : tree.opening start path mode = .refused .accessDenied :=
  (opening_of_names h mode).trans (if_neg (by simp [hfill]))

theorem names_of_opening (h : tree.opening start path mode = .file location now) : Names tree start path location := by
  obtain ⟨place, hresolve, htakes, -⟩ := opening_file h
  exact names_iff_create.2 ⟨place, hresolve, htakes⟩

/-- a path that opens as a file names a file that may be written -/
theorem mayFill_of_opening (h : tree.opening start path mode = .file location now) :
    tree.mayFill location = true ∧ now = tree.openedMode location mode := by
  rw [opening_of_names (names_of_opening h)] at h
  split_ifs at h with hfill
  cases h
  exact ⟨hfill, rfl⟩

/-- **The file a path names has the bytes, everything else is as it was**, if the process may write it. -/
theorem afterWriting_of_names (h : Names tree start path location) (hfill : tree.mayFill location = true)
    (mode : UInt32) (bytes : List UInt8) (other : Location) :
    (tree.afterWriting start path mode bytes).get? other =
      if other = location
      then some (.file (tree.caller.writtenMode location (tree.openedMode location mode) bytes) bytes)
      else tree.get? other := get?_afterWriting (opening_of_mayFill h hfill mode) bytes other

/-- a file that is there has the bytes, and its mode but for the set-id bits -/
theorem replaced_of_names (h : Names tree start path location) {old : UInt32} {content : List UInt8}
    (hfile : tree.get? location = some (.file old content)) (hfill : tree.mayFill location = true) (mode : UInt32)
    (bytes : List UInt8) :
    (tree.afterWriting start path mode bytes).get? location =
      some (.file (tree.caller.modeAfterChange location old) bytes) := by
  rw [afterWriting_of_names h hfill, if_pos rfl, openedMode_of_file hfile, Caller.writtenMode_modeAfterChange]

/-- a file that is not there has the bytes, and the mode of a new file -/
theorem created_of_names (h : Names tree start path location) (hfree : tree.get? location = none)
    (hfill : tree.mayFill location = true) (mode : UInt32) (bytes : List UInt8) :
    (tree.afterWriting start path mode bytes).get? location =
      some (.file (tree.caller.writtenMode location (tree.caller.createdMode location mode) bytes) bytes) := by
  rw [afterWriting_of_names h hfill, if_pos rfl, openedMode_of_free hfree]

/-- **A path that names no file is written in vain.** -/
theorem afterWriting_of_not_names (h : ∀ location, ¬ Names tree start path location) (mode : UInt32)
    (bytes : List UInt8) : tree.afterWriting start path mode bytes = tree :=
  afterWriting_of_not_file (fun location _ hopening => h location (names_of_opening hopening)) bytes

/-- and so is a file that the process may not write -/
theorem afterWriting_of_closed (h : Names tree start path location) (hfill : tree.mayFill location = false)
    (mode : UInt32) (bytes : List UInt8) : tree.afterWriting start path mode bytes = tree :=
  afterWriting_of_not_file (by rw [opening_of_closed h hfill]; simp) bytes

theorem sameBut_afterWriting (h : Names tree start path location) (mode : UInt32) (bytes : List UInt8) :
    tree.SameBut location (tree.afterWriting start path mode bytes) := by
  cases hfill : tree.mayFill location with
  | false =>
    rw [afterWriting_of_closed h hfill]
    exact ⟨rfl, h.takesFile, h.takesFile, fun _ _ => rfl⟩
  | true =>
    have hafter := afterWriting_of_names h hfill mode bytes
    refine ⟨?_, h.takesFile, .inr ⟨_, _, (hafter location).trans (if_pos rfl)⟩, fun other hother => ?_⟩
    · rw [afterWriting_of_file (opening_of_mayFill h hfill mode), set_caller]
    · rw [hafter, if_neg hother]

theorem sameButFiles_afterWriting (tree : Tree) (start : Location) (path : String) (mode : UInt32)
    (bytes : List UInt8) : tree.SameButFiles (tree.afterWriting start path mode bytes) := by
  by_cases h : ∃ location, Names tree start path location
  · obtain ⟨location, hnames⟩ := h
    exact (sameBut_afterWriting hnames mode bytes).sameButFiles
  · rw [afterWriting_of_not_names (fun location hnames => h ⟨location, hnames⟩)]
    exact .refl tree

@[simp] theorem afterWriting_caller (tree : Tree) (start : Location) (path : String) (mode : UInt32)
    (bytes : List UInt8) : (tree.afterWriting start path mode bytes).caller = tree.caller :=
  (sameButFiles_afterWriting tree start path mode bytes).caller.symm

/-- a file that was written is opened again as it is -/
theorem openedMode_afterWriting (h : Names tree start path location) (hfill : tree.mayFill location = true)
    (mode : UInt32) (bytes : List UInt8) :
    (tree.afterWriting start path mode bytes).openedMode location mode =
      tree.caller.modeAfterChange location (tree.openedMode location mode) := by
  have hfile := afterWriting_of_names h hfill mode bytes location
  rw [if_pos rfl] at hfile
  rw [openedMode_of_file hfile, afterWriting_caller]
  unfold Caller.writtenMode
  split_ifs
  · rfl
  · rw [Caller.modeAfterChange_idem]

/-- **To write again changes nothing**, if anything is written. -/
theorem afterWriting_again (h : Names tree start path location) (mode : UInt32) {bytes : List UInt8}
    (hbytes : bytes ≠ []) :
    (tree.afterWriting start path mode bytes).afterWriting start path mode bytes =
      tree.afterWriting start path mode bytes := by
  cases hfill : tree.mayFill location with
  | false => rw [afterWriting_of_closed h hfill, afterWriting_of_closed h hfill]
  | true =>
    have hnames := (names_sameButFiles (sameBut_afterWriting h mode bytes).sameButFiles).1 h
    cases hagain : (tree.afterWriting start path mode bytes).mayFill location with
    | false => exact afterWriting_of_closed hnames hagain mode bytes
    | true =>
      have hopening := opening_of_mayFill hnames hagain mode
      rw [openedMode_afterWriting h hfill] at hopening
      rw [afterWriting_of_file hopening, afterWriting_caller, afterWriting_of_file (opening_of_mayFill h hfill mode),
        set_set, Caller.writtenMode_modeAfterChange, Caller.writtenMode_of_ne_nil hbytes]

/-- a file that was there and may be written may be written again -/
theorem mayFill_afterWriting (h : Names tree start path location) (hfill : tree.mayFill location = true)
    {old : UInt32} {content : List UInt8} (hfile : tree.get? location = some (.file old content)) (mode : UInt32)
    (bytes : List UInt8) : (tree.afterWriting start path mode bytes).mayFill location = true := by
  rw [mayFill_of_file (replaced_of_names h hfile hfill mode bytes), afterWriting_caller,
    Caller.mayOpen_congr (Caller.modeAfterChange_keeps _ _ _).permissions _ content, ← mayFill_of_file hfile, hfill]

/-- a path that names a file there is reads it, if the process may -/
theorem openForReading_of_names (h : Names tree start path location) {content : List UInt8}
    (hfile : tree.get? location = some (.file mode content)) :
    tree.openForReading start path =
      if tree.caller.mayOpen .read location (.file mode content) then .done (.file mode content)
      else .failed .accessDenied := by
  obtain ⟨place, hresolve, htakes⟩ := names_iff_use.1 h
  have hplace := resolve_at hresolve
  rcases htakes with rfl | ⟨old, other, rfl⟩
  · rw [hplace.2] at hfile; cases hfile
  · rcases hplace with hdirectory | ⟨-, hsome⟩
    · cases hdirectory
    · rw [hfile] at hsome; cases hsome; exact openForReading_of_file hresolve

/-! ## A path that names no file -/

/-- a tree of directories, regular files and links -/
def Plain (tree : Tree) : Prop :=
  ∀ location node, tree.get? location = some node →
    node = .directory ∨ (∃ mode content, node = .file mode content) ∨ ∃ target, node = .link target

/-- what a path leads to in such a tree is a directory, a file or a link -/
theorem Plain.not_special (h : tree.Plain) {node : Node}
    (hresolve : resolve tree .create start path = .ok (.existing location node)) :
    node ≠ .pipe ∧ ∀ device, node ≠ .device device := by
  have hkind : node = .directory ∨ (∃ mode content, node = .file mode content) ∨ ∃ target, node = .link target := by
    rcases resolve_at hresolve with hdirectory | ⟨-, hsome⟩
    · exact .inl hdirectory
    · exact h location node hsome
  rcases hkind with rfl | ⟨_, _, rfl⟩ | ⟨_, rfl⟩ <;> simp

/-- **Among files, directories and links a path that names no file is refused**, for what is wrong with it. -/
theorem opening_of_not_names (hplain : tree.Plain) (hnames : ∀ location, ¬ Names tree start path location)
    (mode : UInt32) : ∃ fault ∈ lookUpFaults, tree.opening start path mode = .refused fault := by
  unfold opening
  cases hresolve : resolve tree .create start path with
  | error fault => exact ⟨fault, resolve_error hresolve, rfl⟩
  | ok place =>
    cases place with
    | free location => exact (hnames location (names_iff_create.2 ⟨_, hresolve, .inl rfl⟩)).elim
    | existing location node =>
      obtain ⟨hpipe, hdevice⟩ := hplain.not_special hresolve
      cases node with
      | file old content =>
        exact (hnames location (names_iff_create.2 ⟨_, hresolve, .inr ⟨old, content, rfl⟩⟩)).elim
      | directory => exact ⟨_, by decide, rfl⟩
      | link target => exact ⟨_, by decide, rfl⟩
      | pipe => exact (hpipe rfl).elim
      | device device => exact (hdevice device rfl).elim

/-! ## Two trees -/

/-- where one file comes or changes, a path that does not name it leads to something as before -/
theorem hasPath_sameBut {first second : Tree} (hsame : first.SameBut location second)
    (hnames : ¬ Names first start path location) : first.hasPath start path = second.hasPath start path := by
  rw [Bool.eq_iff_iff, hasPath_iff, hasPath_iff]
  simp only [resolve_sameBut hsame hnames]

/-- and a text that is there is read as before -/
theorem readText_sameBut {first second : Tree} (hsame : first.SameBut location second)
    (hnames : ¬ Names first start path location) (hpath : first.hasPath start path = true) :
    first.readText start path = second.readText start path := by
  obtain ⟨found, node, hresolve⟩ := hasPath_iff.1 hpath
  have hother := (resolve_sameBut hsame hnames).1 hresolve
  unfold readText openForReading
  rw [hresolve, hother, hsame.caller]

/-- **Trees that differ in contents alone are opened alike.** -/
theorem opening_sameButContents {first second : Tree} (h : first.SameButContents second) (start : Location)
    (path : String) (mode : UInt32) : first.opening start path mode = second.opening start path mode := by
  unfold opening
  rcases resolve_sameButContents h .create start path with heq | ⟨_, _, content, other, hfirst, hsecond⟩
  · rw [heq, h.caller]
  · simp only [hfirst, hsecond, h.caller, Caller.mayOpen_congr rfl content other]

/-- two trees after the same was done to both: everywhere they are alike, or as they were before -/
def SameChange (first second firstAfter secondAfter : Tree) : Prop :=
  ∀ location, firstAfter.get? location = secondAfter.get? location ∨
    firstAfter.get? location = first.get? location ∧ secondAfter.get? location = second.get? location

theorem sameChange_refl (first second : Tree) : SameChange first second first second := fun _ => .inr ⟨rfl, rfl⟩

theorem sameChange_afterWriting {first second : Tree} (h : first.SameButContents second) (start : Location)
    (path : String) (mode : UInt32) (bytes : List UInt8) :
    SameChange first second (first.afterWriting start path mode bytes) (second.afterWriting start path mode bytes) := by
  have heq := opening_sameButContents h start path mode
  cases hopening : first.opening start path mode with
  | file location now =>
    intro other
    rw [get?_afterWriting hopening, get?_afterWriting (heq ▸ hopening), h.caller]
    split_ifs
    · exact .inl rfl
    · exact .inr ⟨rfl, rfl⟩
  | _ =>
    have hfirst := @afterWriting_of_not_file first start path mode (by simp [hopening]) bytes
    have hsecond := @afterWriting_of_not_file second start path mode (by simp [← heq, hopening]) bytes
    rw [hfirst, hsecond]
    exact sameChange_refl first second

end Tree

end BlockProbe.Files
