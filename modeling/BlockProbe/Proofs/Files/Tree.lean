/-
One location of a tree changes, all others stay.

- `get?_set`: what is anywhere in a tree after one node was put.
- `SameButContents`: trees that differ in what their files hold and in nothing else.
-/
import BlockProbe.Files.Tree
import Mathlib.Tactic.Common

namespace BlockProbe.Files.Tree

@[simp] theorem set_caller (tree : Tree) (location : Location) (node : Node) :
    (tree.set location node).caller = tree.caller := rfl

theorem find?_putNode (location other : Location) (node : Node) (entries : List (Location × Node)) :
    find? other (putNode location node entries) = if other = location then some node else find? other entries := by
  induction entries with
  | nil =>
    rw [putNode, find?]
    simp only [find?, eq_comm]
  | cons entry rest ih =>
    obtain ⟨place, old⟩ := entry
    rw [putNode]
    split_ifs with hplace hother hother
    · rw [find?, if_pos (hplace.trans hother.symm)]
    · rw [find?, find?, if_neg, if_neg]
      · rintro rfl; exact hother hplace
      · rintro rfl; exact hother hplace
    · rw [find?, ih, if_pos hother, if_neg]
      rintro rfl; exact hplace hother
    · rw [find?, find?, ih, if_neg hother]

/-- **Nothing else changes.** The root apart, a node is where it was put and everything else is where it was. -/
theorem get?_set (tree : Tree) {location : Location} (hroot : location ≠ []) (node : Node) (other : Location) :
    (tree.set location node).get? other = if other = location then some node else tree.get? other := by
  unfold get? set
  simp only [find?_putNode]
  split_ifs with hempty hsame
  · exact absurd (hsame.symm.trans hempty) hroot
  · rfl
  · rfl
  · rfl

theorem get?_set_self (tree : Tree) {location : Location} (hroot : location ≠ []) (node : Node) :
    (tree.set location node).get? location = some node := by
  rw [get?_set tree hroot, if_pos rfl]

theorem get?_set_of_ne (tree : Tree) {location other : Location} (hroot : location ≠ []) (node : Node)
    (h : other ≠ location) : (tree.set location node).get? other = tree.get? other := by
  rw [get?_set tree hroot, if_neg h]

theorem putNode_putNode (location : Location) (node later : Node) (entries : List (Location × Node)) :
    putNode location later (putNode location node entries) = putNode location later entries := by
  induction entries with
  | nil => simp [putNode]
  | cons entry rest ih =>
    obtain ⟨place, old⟩ := entry
    by_cases hplace : place = location
    · simp [putNode, hplace]
    · simp [putNode, hplace, ih]

/-- of two nodes put at a location the later one is there -/
theorem set_set (tree : Tree) (location : Location) (node later : Node) :
    (tree.set location node).set location later = tree.set location later :=
  congrArg (fun entries => { tree with entries }) (putNode_putNode location node later tree.entries)

/-- two trees that may differ in what their files hold, and in nothing else -/
structure SameButContents (first second : Tree) : Prop where
  caller : first.caller = second.caller
  nodes (location : Location) : first.get? location = second.get? location ∨
    ∃ mode content other, first.get? location = some (.file mode content) ∧
      second.get? location = some (.file mode other)

end BlockProbe.Files.Tree
