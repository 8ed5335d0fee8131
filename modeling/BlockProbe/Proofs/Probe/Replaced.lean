/-
What a write does to the files.

A path either names a place for a file, links followed, or it does not. In the first case the bytes are put there by a
process that may write there: a file that is there loses its content and keeps its mode, a new one gets the mode that is
asked for less what the process masks, and either may lose the set-id bits that a change of content takes away from
everybody but a privileged process. In the second case, and where the process may not write, the write is refused where
it opens the path. Nothing else changes in any case, so after a failure the files are as they were, and whether the
write is flushed makes no difference.

- `writeTo_of_names`: what a write comes to where the path names a place.
- `writeTo_of_refused`: and where it cannot be opened.
- `write_replaces`: both, for every tree, path, payload and choice of options, and every process.
-/
import BlockProbe.Proofs.Probe.OnTree
import Mathlib

namespace BlockProbe.Probe

open BlockProbe.Files

variable {tree : Tree} {start location : Location} {path : String}

/-! ## Writing -/

theorem writeTo_of_names (h : Names tree start path location) (hfill : tree.mayFill location = true)
    (bytes : List UInt8) (options : Options) :
    writeTo tree start path bytes options = (.done (), tree.afterWriting start path options.mode bytes) := by
  unfold writeTo
  rw [writePayload_of_names h hfill]

/-- **A path that cannot be opened** fails the write, flushed or not, and nothing changes. -/
theorem writeTo_of_refused {mode : UInt32} {fault : Fault} (h : tree.opening start path mode = .refused fault)
    (hfault : fault ∈ lookUpFaults) (bytes : List UInt8) (sync : Bool) :
    writeTo tree start path bytes { mode, sync } = (.failed { path, failure := .call .write fault }, tree) := by
  unfold writeTo
  rw [writePayload_of_refused h (isInterruption_of_mem hfault), Tree.afterWriting_of_not_file (by rw [h]; simp)]

/-- what a write of `bytes` to a path comes to -/
structure Replaces (tree : Tree) (start : Location) (path : String) (bytes : List UInt8) (options : Options) :
    Prop where
  /-- a file that is there has the bytes, and its mode but for the set-id bits -/
  existing (location : Location) (mode : UInt32) (content : List UInt8) : Names tree start path location →
    tree.get? location = some (.file mode content) →
    tree.caller.mayOpen .write location (.file mode content) = true →
    (writeTo tree start path bytes options).1 = .done () ∧
    ∃ now, (writeTo tree start path bytes options).2.get? location = some (.file now bytes) ∧
      KeepsPermissions tree.caller location mode now
  /-- a file that is not there is created -/
  created (location : Location) : Names tree start path location → tree.get? location = none →
    tree.caller.adds location.dropLast = true →
    (writeTo tree start path bytes options).1 = .done () ∧
    ∃ now, (writeTo tree start path bytes options).2.get? location = some (.file now bytes) ∧
      CreatedAs tree.caller location options.mode bytes now
  /-- nothing else changes, and there is no other node at the place itself -/
  elsewhere (location : Location) : Names tree start path location →
    tree.TakesFile location ∧
    ∀ other, other ≠ location → (writeTo tree start path bytes options).2.get? other = tree.get? other
  /-- a file that the process may not write, or not create, is left alone -/
  closed (location : Location) : Names tree start path location → tree.mayFill location = false →
    writeTo tree start path bytes options = (.failed { path, failure := .call .write .accessDenied }, tree)
  refused : tree.Plain → (∀ location, ¬ Names tree start path location) →
    ∃ fault ∈ lookUpFaults, writeTo tree start path bytes options =
      (.failed { path, failure := .call .write fault }, tree)
  unchanged (error : Error) : (writeTo tree start path bytes options).1 = .failed error →
    (writeTo tree start path bytes options).2 = tree
  sync (sync : Bool) : tree.Plain →
    writeTo tree start path bytes { options with sync } = writeTo tree start path bytes options

/-- a file that is named is opened and written, or nothing happens -/
theorem writeTo_elsewhere (h : Names tree start path location) (bytes : List UInt8) (options : Options)
    {other : Location} (hother : other ≠ location) :
    (writeTo tree start path bytes options).2.get? other = tree.get? other :=
  ((Tree.sameBut_afterWriting h options.mode bytes).elsewhere other hother).symm

/-- **A write replaces one file or changes nothing.** Where the path names a place where the process may write, that
place holds the bytes afterwards and the write succeeds; where it names none, or the process may not, the write fails on
it. -/
theorem write_replaces (tree : Tree) (start : Location) (path : String) (bytes : List UInt8) (options : Options) :
    Replaces tree start path bytes options where
  existing location mode content hnames hfile hopen := by
    have hfill : tree.mayFill location = true := (Tree.mayFill_of_file hfile).trans hopen
    rw [writeTo_of_names hnames hfill]
    exact ⟨rfl, _, Tree.replaced_of_names hnames hfile hfill options.mode bytes,
      Caller.modeAfterChange_keeps tree.caller location mode⟩
  created location hnames hfree hadds := by
    have hfill : tree.mayFill location = true := (Tree.mayFill_of_free hfree).trans hadds
    rw [writeTo_of_names hnames hfill]
    exact ⟨rfl, _, Tree.created_of_names hnames hfree hfill options.mode bytes,
      createdAs tree.caller location options.mode bytes⟩
  elsewhere location hnames := ⟨hnames.takesFile, fun _ hother => writeTo_elsewhere hnames bytes options hother⟩
  closed location hnames hfill :=
    writeTo_of_refused (Tree.opening_of_closed hnames hfill options.mode) (by decide) bytes options.sync
  refused hplain hnames := by
    obtain ⟨fault, hfault, hopening⟩ := Tree.opening_of_not_names hplain hnames options.mode
    exact ⟨fault, hfault, writeTo_of_refused hopening hfault bytes options.sync⟩
  unchanged error hfailed := by
    -- a file that is opened is written, so a failure means that none was
    refine Tree.afterWriting_of_not_file (fun location now hopening => ?_) bytes
    rw [writeTo_of_names (Tree.names_of_opening hopening) (Tree.mayFill_of_opening hopening).1] at hfailed
    cases hfailed
  sync sync hplain := by
    by_cases hnames : ∃ location, Names tree start path location
    · obtain ⟨location, hnames⟩ := hnames
      cases hfill : tree.mayFill location with
      | true => rw [writeTo_of_names hnames hfill, writeTo_of_names hnames hfill]
      | false =>
        have hopening := Tree.opening_of_closed hnames hfill options.mode
        exact (writeTo_of_refused hopening (by decide) bytes sync).trans
          (writeTo_of_refused hopening (by decide) bytes options.sync).symm
    · have hnone : ∀ location, ¬ Names tree start path location := fun location h => hnames ⟨location, h⟩
      obtain ⟨fault, hfault, hopening⟩ := Tree.opening_of_not_names hplain hnone options.mode
      calc writeTo tree start path bytes { options with sync }
        _ = (.failed { path, failure := .call .write fault }, tree) := writeTo_of_refused hopening hfault bytes sync
        _ = writeTo tree start path bytes options := (writeTo_of_refused hopening hfault bytes options.sync).symm

/-! A file in a directory, a link to it, a link to where there is nothing yet, and a file for reading only. The process
owns the files, has no privilege, and masks everything but the owner's bits. -/

def aliasTree : Tree where
  entries := [(["d"], .directory), (["d", "f"], .file 0o640 (Text.encode "at first something long")),
    (["a"], .link "d/f"), (["b"], .link "d/g"), (["r"], .file 0o444 [])]
  caller := { mask := 0o077, overrides _ := false }

theorem aliasTree_names : Names aliasTree [] "a" ["d", "f"] ∧ Names aliasTree [] "b" ["d", "g"] ∧
    Names aliasTree [] "r" ["r"] := by
  have hlooked : IsLookedUp aliasTree [] "d" := ⟨by decide, by decide, by cbv, rfl⟩
  have hfile : ∀ links, Leads aliasTree links [] ["d", "f"] ["d", "f"] := fun links =>
    .enter hlooked rfl (.last ⟨by decide, by decide, by cbv, rfl⟩ (.inr ⟨_, _, rfl⟩))
  have hfree : ∀ links, Leads aliasTree links [] ["d", "g"] ["d", "g"] := fun links =>
    .enter hlooked rfl (.last ⟨by decide, by decide, by cbv, rfl⟩ (.inl rfl))
  refine ⟨⟨by decide, by decide, by cbv, ?_⟩, ⟨by decide, by decide, by cbv, ?_⟩,
    ⟨by decide, by decide, by cbv, ?_⟩⟩
  · exact .follow ⟨by decide, by decide, by cbv, rfl⟩ rfl (hfile _)
  · exact .follow ⟨by decide, by decide, by cbv, rfl⟩ rfl (hfree _)
  · exact .last ⟨by decide, by decide, by cbv, rfl⟩ (.inr ⟨_, _, rfl⟩)

theorem aliasTree_plain : aliasTree.Plain := by
  intro location node hnode
  simp only [aliasTree, Tree.get?, Tree.find?] at hnode
  split_ifs at hnode <;> cases hnode <;> simp

theorem aliasTree_missing (location : Location) : ¬ Names aliasTree [] "missing/x" location := by
  have hcomponents : components "missing/x" = ["missing", "x"] := by cbv
  refine not_names_of_missing hcomponents ⟨by decide, by decide, by cbv, by rw [ite_self]; rfl⟩ (by simp) ?_
  rw [ite_self]
  rfl

/-- the sample's writes: through a link to the file behind it, through a dangling link to a new file, and in vain where
nothing can be and where the process may not write -/
theorem alias_write_replaces :
    (Names aliasTree [] "a" ["d", "f"] ∧
      (writeTo aliasTree [] "a" payload {}).2.get? ["d", "f"] = some (.file 0o640 payload) ∧
      (writeTo aliasTree [] "a" payload {}).2.get? ["a"] = some (.link "d/f")) ∧
    (Names aliasTree [] "b" ["d", "g"] ∧ aliasTree.get? ["d", "g"] = none ∧
      (writeTo aliasTree [] "b" payload { mode := 0o666 }).2.get? ["d", "g"] = some (.file 0o600 payload)) ∧
    (Names aliasTree [] "r" ["r"] ∧ writeTo aliasTree [] "r" payload {} =
      (.failed { path := "r", failure := .call .write .accessDenied }, aliasTree)) ∧
    (aliasTree.Plain ∧ (∀ location, ¬ Names aliasTree [] "missing/x" location) ∧
      ∃ fault ∈ lookUpFaults, writeTo aliasTree [] "missing/x" payload {} =
        (.failed { path := "missing/x", failure := .call .write fault }, aliasTree)) ∧
    writeTo aliasTree [] "d" payload { sync := true } = writeTo aliasTree [] "d" payload {} := by
  obtain ⟨hnames, hother, hreadable⟩ := aliasTree_names
  have hwrite := write_replaces aliasTree [] "a" payload {}
  obtain ⟨-, now, hfile, hkept⟩ := hwrite.existing _ _ _ hnames rfl (by decide)
  rw [hkept.plain (by decide)] at hfile
  obtain ⟨-, new, hnew, hcreated⟩ :=
    (write_replaces aliasTree [] "b" payload { mode := 0o666 }).created _ hother rfl rfl
  rw [hcreated.plain (by decide)] at hnew
  have hclosed := (write_replaces aliasTree [] "r" payload {}).closed _ hreadable (by decide)
  have hrefused := (write_replaces aliasTree [] "missing/x" payload {}).refused aliasTree_plain aliasTree_missing
  exact ⟨⟨hnames, hfile, (hwrite.elsewhere _ hnames).2 _ (by decide)⟩, ⟨hother, rfl, hnew⟩, ⟨hreadable, hclosed⟩,
    ⟨aliasTree_plain, aliasTree_missing, hrefused⟩,
    (write_replaces aliasTree [] "d" payload {}).sync true aliasTree_plain⟩

/-! A file with a set-user-id bit, and processes that may keep it or may not. -/

def setuidTree (caller : Caller) : Tree := { entries := [(["f"], .file 0o4755 [])], caller }

theorem setuidTree_names (caller : Caller) (h : caller.searches [] = true) :
    Names (setuidTree caller) [] "f" ["f"] ∧ Names (setuidTree caller) [] "g" ["g"] :=
  ⟨⟨by decide, by decide, by cbv, .last ⟨by decide, by decide, by cbv, h⟩ (.inr ⟨_, _, rfl⟩)⟩,
    ⟨by decide, by decide, by cbv, .last ⟨by decide, by decide, by cbv, h⟩ (.inl rfl)⟩⟩

/-- a set-user-id bit goes when bytes are written by a process without the privilege to keep it, of a file that is there
and of one that is created with it -/
theorem setuid_not_kept :
    ({} : Caller).keepsSetIds = false ∧
    Names (setuidTree {}) [] "f" ["f"] ∧ (setuidTree {}).get? ["f"] = some (.file 0o4755 []) ∧
    (writeTo (setuidTree {}) [] "f" payload {}).2.get? ["f"] = some (.file 0o755 payload) ∧
    Names (setuidTree {}) [] "g" ["g"] ∧ (setuidTree {}).get? ["g"] = none ∧
    (writeTo (setuidTree {}) [] "g" payload { mode := 0o4755 }).2.get? ["g"] = some (.file 0o755 payload) ∧
    (0o755 : UInt32) ≠ 0o4755 ∧ (0o755 : UInt32) ≠ ({} : Caller).masked 0o4755 := by
  obtain ⟨hfile, hfree⟩ := setuidTree_names {} rfl
  have hchanged : ({} : Caller).modeAfterChange ["f"] 0o4755 = 0o755 := by cbv
  have hcreated : ({} : Caller).writtenMode ["g"] (({} : Caller).createdMode ["g"] 0o4755) payload = 0o755 := by cbv
  have hwritten := Tree.replaced_of_names hfile rfl rfl 0o644 payload
  have hnew := Tree.created_of_names hfree rfl rfl 0o4755 payload
  exact ⟨rfl, hfile, rfl, hchanged ▸ hwritten, hfree, rfl, hcreated ▸ hnew, by decide, by decide⟩

end BlockProbe.Probe
