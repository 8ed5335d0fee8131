/-
What the worker does to the files, and what it comes back with.

`Reading` and `Tripping` say where a worker can be, with the tree at that moment: while it reads the settings, and while
it makes the round trip of a plan. Whether somebody waits for it does not matter, and what it comes back with is what an
undisturbed run gets.

- `Reading.work`, `Tripping.work`: each move of the worker keeps to that.
- `Tripping.partly`: at any moment the target holds a part of the payload, or nothing has changed.
-/
import BlockProbe.Proofs.Command.Moves
import BlockProbe.Proofs.Command.Touched
import Mathlib

namespace BlockProbe.Command.Shutdown

open BlockProbe.Files
open BlockProbe.Probe (ReadBack payload)
open BlockProbe.Settings

variable {site : Site} {arguments : List String} {state : State} {made : Plan} {worker : Worker} {tree : Tree}

/-- where a worker can be that reads the settings -/
inductive Reading (site : Site) : Worker → Prop
  | reading : Reading site .reading
  | hasSettings {loaded : Except LoadError Settings}
    (hload : load site.tree site.directory site.home site.environment = .ofExcept loaded) :
    Reading site (.hasSettings loaded)

/-- the tree when so many bytes of the payload are in a file that was opened with this mode -/
def holding (site : Site) (location : Location) (now : UInt32) (count : Nat) : Tree :=
  site.tree.set location
    (.file (site.tree.caller.writtenMode location now (payload.take count)) (payload.take count))

theorem get?_holding {location : Location} (hroot : location ≠ []) (now : UInt32) (count : Nat) :
    (holding site location now count).get? location = some
      (.file (site.tree.caller.writtenMode location now (payload.take count)) (payload.take count)) :=
  Tree.get?_set_self site.tree hroot _

/-- where a worker can be that makes the round trip of a plan, and the tree then -/
inductive Tripping (site : Site) (made : Plan) : Worker → Tree → Prop
  | starting : Tripping site made (.starting made) site.tree
  | filling {location : Location} {now : UInt32}
    (hopening : site.tree.opening site.directory made.path made.options.mode = .file location now) (count : Nat) :
    Tripping site made (.writing made location count)
      (holding site location now count)
  | feeding {location : Location} {device : Files.Device}
    (hopening : site.tree.opening site.directory made.path made.options.mode = .device location device) (count : Nat) :
    Tripping site made (.writing made location count) site.tree
  | written (hwrite : Probe.writePayload made.path (targetAt site made).sink payload made.options = .done ()) :
    Tripping site made (.written made) (treeAfter site made)
  | failed {error : Probe.Error} (htried : tried made (targetAt site made) = .failed error) :
    Tripping site made (.finished (.error (.probe error))) (treeAfter site made)
  | read {read : ReadBack} (htried : tried made (targetAt site made) = .done read) :
    Tripping site made (.finished (.ok read)) (treeAfter site made)

/-! ## Reading the settings -/

theorem Reading.work (h : Reading site state.worker) (htree : state.tree = site.tree) (count : Nat) :
    Reading site (work site state count).worker ∧ (work site state count).tree = site.tree := by
  unfold Shutdown.work
  cases hworker : state.worker with
  | reading =>
    dsimp only
    rw [htree]
    cases hload : load site.tree site.directory site.home site.environment with
    | waits => exact ⟨hworker ▸ .reading, htree⟩
    | failed error => exact ⟨.hasSettings hload, rfl⟩
    | done settings => exact ⟨.hasSettings hload, rfl⟩
  | hasSettings loaded => exact ⟨h, htree⟩
  | _ => rw [hworker] at h; cases h

/-! ## The round trip -/

theorem treeAfter_of_not_file
    (h : ∀ location now, site.tree.opening site.directory made.path made.options.mode ≠ .file location now) :
    treeAfter site made = site.tree := Tree.afterWriting_of_not_file h payload

theorem tried_of_write {error : Probe.Error}
    (h : Probe.writePayload made.path (targetAt site made).sink payload made.options = .failed error) :
    tried made (targetAt site made) = .failed error := by
  unfold tried Probe.roundTrip
  rw [h]
  rfl

theorem tried_of_written
    (h : Probe.writePayload made.path (targetAt site made).sink payload made.options = .done ()) :
    tried made (targetAt site made) =
      Probe.readFrom (treeAfter site made) site.directory made.path payload.length := by
  unfold tried Probe.roundTrip
  rw [h]
  rfl

/-- opening the target: it is there to be written, or it is refused, or it waits -/
theorem Tripping.openTarget (hworker : state.worker = .starting made) (htree : state.tree = site.tree) :
    Tripping site made (openTarget site state made).worker (openTarget site state made).tree := by
  have hsame : Tripping site made state.worker state.tree := by rw [hworker, htree]; exact .starting
  unfold Shutdown.openTarget
  rw [htree, Tree.openForWriting_eq]
  cases hopening : site.tree.opening site.directory made.path made.options.mode with
  | waits => exact hsame
  | device location device => exact .feeding hopening 0
  | file location now => exact .filling hopening 0
  | refused fault =>
    dsimp only [Attempt.answers]
    rw [Probe.failing_refused]
    cases hinterrupted : fault.isInterruption with
    | true => exact hsame
    | false =>
      have hwrite : Probe.writePayload made.path (targetAt site made).sink payload made.options =
          .failed { path := made.path, failure := .call .write fault } := by
        unfold Probe.writePayload targetAt Probe.targetOf
        rw [Probe.sinkOf_eq, hopening, Probe.failing_refused, hinterrupted]
        rfl
      have hafter : treeAfter site made = site.tree := treeAfter_of_not_file (by simp [hopening])
      exact hafter ▸ .failed (tried_of_write hwrite)

/-- with more of the payload there is nothing only if there was nothing -/
theorem taken_of_more {count reached : Nat} (h : count ≤ reached) (hnone : payload.take reached = []) :
    payload.take count = [] := by
  rcases List.take_eq_nil_iff.1 hnone with rfl | hempty
  · rw [Nat.le_zero.1 h]; rfl
  · rw [hempty]; exact List.take_nil

/-- a device takes nothing into the tree -/
theorem fill_device {location : Location} {device : Files.Device}
    (h : site.tree.get? location = some (.device device)) (bytes : List UInt8) :
    site.tree.fill location bytes = site.tree := by
  unfold Tree.fill
  rw [h]

/-- writing the last of the payload to a file: it is written -/
theorem Tripping.complete_file {location : Location} {now : UInt32} {count : Nat}
    (hopening : site.tree.opening site.directory made.path made.options.mode = .file location now)
    (htree : state.tree = holding site location now count) :
    Tripping site made (complete state made location).worker (complete state made location).tree := by
  obtain ⟨_, _, _, hroot⟩ := Tree.opening_file hopening
  have hwrite : Probe.writePayload made.path (targetAt site made).sink payload made.options = .done () :=
    Probe.writePayload_of_names (Tree.names_of_opening hopening) (Tree.mayFill_of_opening hopening).1 made.path
      made.options
  have hsink (mode : UInt32) (content : List UInt8) : sinkAt (.file mode content) = (targetAt site made).sink := by
    unfold targetAt Probe.targetOf
    rw [Probe.sinkOf_eq, hopening]
    rfl
  have hpayload : payload = [] → payload.take count = [] := fun hempty => by rw [hempty]; exact List.take_nil
  have hfilled : state.tree.fill location payload = treeAfter site made := by
    rw [htree, holding, Tree.fill_more _ hroot now hpayload]
    exact (Tree.afterWriting_of_file hopening payload).symm
  unfold complete
  rw [hfilled]
  simp only [htree, get?_holding hroot, Option.getD_some, hsink, hwrite]
  exact .written hwrite

/-- writing the last of the payload to a device: it takes it, or refuses it, or waits -/
theorem Tripping.complete_device {location : Location} {device : Files.Device} {count : Nat}
    (hopening : site.tree.opening site.directory made.path made.options.mode = .device location device)
    (hworker : state.worker = .writing made location count) (htree : state.tree = site.tree) :
    Tripping site made (complete state made location).worker (complete state made location).tree := by
  have hnode := (Tree.opening_device hopening).2
  have hsink : sinkAt (.device device) = (targetAt site made).sink := by
    unfold targetAt Probe.targetOf
    rw [Probe.sinkOf_eq, hopening]
    rfl
  have hafter : treeAfter site made = site.tree := treeAfter_of_not_file (by simp [hopening])
  unfold complete
  simp only [htree, hnode, Option.getD_some, hsink, fill_device hnode]
  cases hwrite : Probe.writePayload made.path (targetAt site made).sink payload made.options with
  | waits => exact hworker ▸ .feeding hopening count
  | failed error => exact hafter ▸ .failed (tried_of_write hwrite)
  | done _ => exact hafter ▸ .written hwrite

/-- reading back -/
theorem Tripping.readBack
    (hwrite : Probe.writePayload made.path (targetAt site made).sink payload made.options = .done ())
    (hworker : state.worker = .written made) (htree : state.tree = treeAfter site made) :
    Tripping site made (readBack site state made).worker (readBack site state made).tree := by
  unfold Shutdown.readBack
  rw [htree]
  have htried := tried_of_written hwrite
  cases hread : Probe.readFrom (treeAfter site made) site.directory made.path payload.length with
  | waits => dsimp only; rw [hworker, htree]; exact .written hwrite
  | failed error => exact htree ▸ .failed (htried.trans hread)
  | done read => exact htree ▸ .read (htried.trans hread)

/-- **Each move of a worker on its round trip** keeps it there. -/
theorem Tripping.work (h : Tripping site made worker tree) (hworker : state.worker = worker)
    (htree : state.tree = tree) (count : Nat) :
    Tripping site made (work site state count).worker (work site state count).tree := by
  unfold Shutdown.work
  rw [hworker]
  cases h with
  | starting => exact .openTarget hworker htree
  | filling hopening written =>
    dsimp only
    split_ifs with hpart
    · obtain ⟨_, _, _, hroot⟩ := Tree.opening_file hopening
      rw [htree, holding, Tree.fill_more _ hroot _ (taken_of_more (Nat.le_add_right written count))]
      exact .filling hopening _
    · exact .complete_file hopening htree
  | feeding hopening written =>
    dsimp only
    split_ifs with hpart
    · rw [htree, fill_device (Tree.opening_device hopening).2]
      exact .feeding hopening _
    · exact .complete_device hopening hworker htree
  | written hwrite => exact .readBack hwrite hworker htree
  | failed htried => dsimp only; rw [hworker, htree]; exact .failed htried
  | read htried => dsimp only; rw [hworker, htree]; exact .read htried

/-! ## The files meanwhile -/

/-- the file that a plan's path opens holds so many bytes of the payload -/
def Holds (site : Site) (made : Plan) (tree : Tree) : Prop :=
  ∃ location now count, site.tree.opening site.directory made.path made.options.mode = .file location now ∧
    tree = holding site location now count

theorem treeAfter_cases (site : Site) (made : Plan) :
    treeAfter site made = site.tree ∨ Holds site made (treeAfter site made) := by
  cases hopening : site.tree.opening site.directory made.path made.options.mode with
  | file location now =>
    refine .inr ⟨location, now, payload.length, hopening, ?_⟩
    unfold holding
    rw [List.take_length]
    exact Tree.afterWriting_of_file hopening payload
  | _ => exact .inl (treeAfter_of_not_file (by simp [hopening]))

theorem Tripping.tree_cases (h : Tripping site made worker tree) : tree = site.tree ∨ Holds site made tree := by
  cases h with
  | starting => exact .inl rfl
  | filling hopening count => exact .inr ⟨_, _, count, hopening, rfl⟩
  | feeding _ _ => exact .inl rfl
  | written _ => exact treeAfter_cases site made
  | failed _ => exact treeAfter_cases site made
  | read _ => exact treeAfter_cases site made

/-- **At any moment of a round trip** its target holds what it held before, or a part of the payload from the first byte
on, and everything else is as it was. -/
theorem Tripping.partly (h : Tripping site made worker tree) (hmade : Makes site arguments made) :
    (∀ location, ¬ Targets site arguments location → tree.get? location = site.tree.get? location) ∧
    ∀ location, Targets site arguments location → tree.get? location = site.tree.get? location ∨
      ∃ mode count, tree.get? location = some (.file mode (payload.take count)) := by
  rcases h.tree_cases with rfl | ⟨target, now, count, hopening, rfl⟩
  · exact ⟨fun _ _ => rfl, fun _ _ => .inl rfl⟩
  · obtain ⟨_, _, _, hroot⟩ := Tree.opening_file hopening
    have htarget : Targets site arguments target :=
      targets_iff_makes.2 ⟨made, hmade, Tree.names_of_opening hopening⟩
    refine ⟨fun location hnot => ?_, fun location hlocation => .inr ?_⟩
    · exact Tree.get?_set_of_ne _ hroot _ (by rintro rfl; exact hnot htarget)
    · rw [htarget.unique hlocation, get?_holding hroot]
      exact ⟨_, count, rfl⟩

end BlockProbe.Command.Shutdown
