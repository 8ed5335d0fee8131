/-
What a run does to the files.

`Targets` says which file a run may write: its arguments are accepted and give a path that names the file, its settings
load, and they pass the check with the request's interval. There is one such file at most.

- `run_tree_of_targets`: that file holds the payload afterwards, if the process may write it.
- `run_tree_of_not_targets`, `run_tree_of_closed`: without such a file, or without permission, the tree is what it was.
- `tree_run`: what is anywhere after a run, and which exit statuses come with an unchanged tree.
-/
import BlockProbe.Proofs.Command.Outcome
import BlockProbe.Proofs.Probe.OnTree
import Mathlib

namespace BlockProbe.Command

open BlockProbe.Files
open BlockProbe.Probe (payload)
open BlockProbe.Settings

/-- the run may write the file at this location -/
def Targets (site : Site) (arguments : List String) (location : Location) : Prop :=
  ∃ request settings path, parse arguments = .ok request ∧ request.path = some path ∧
    load site.tree site.directory site.home site.environment = .done settings ∧
    (withInterval settings request.interval).check = .ok () ∧ Names site.tree site.directory path location

/-- what a run writes, the process may read -/
def ReadsTarget (site : Site) (arguments : List String) : Prop :=
  ∀ made location, Makes site arguments made → Names site.tree site.directory made.path location →
    site.tree.mayFill location = true → site.tree.mayReadBack location made.options.mode = true

variable {site : Site} {arguments : List String} {made other : Plan} {location : Location}

/-! ## The plan of a run and its target -/

/-- a run makes one plan -/
theorem Makes.unique (h : Makes site arguments made) (hother : Makes site arguments other) : made = other := by
  obtain ⟨request, settings, hparse, hload, hplan⟩ := h
  obtain ⟨_, _, hparseOther, hloadOther, hplanOther⟩ := hother
  rw [hparse] at hparseOther
  cases hparseOther
  rw [hload] at hloadOther
  cases hloadOther
  rw [hplan] at hplanOther
  cases hplanOther
  rfl

theorem targets_iff_makes :
    Targets site arguments location ↔
      ∃ made, Makes site arguments made ∧ Names site.tree site.directory made.path location := by
  constructor
  · rintro ⟨request, settings, path, hparse, hpath, hload, hcheck, hnames⟩
    obtain ⟨made, hplan⟩ := plan_of_passed (by rw [hpath]; simp) hcheck
    obtain ⟨_, hsame, -, rfl⟩ := plan_eq_ok hplan
    rw [hpath] at hsame
    cases hsame
    exact ⟨_, ⟨request, settings, hparse, hload, hplan⟩, hnames⟩
  · rintro ⟨made, ⟨request, settings, hparse, hload, hplan⟩, hnames⟩
    obtain ⟨path, hpath, hcheck, rfl⟩ := plan_eq_ok hplan
    exact ⟨request, settings, path, hparse, hpath, hload, hcheck, hnames⟩

theorem Targets.unique (h : Targets site arguments location) {second : Location}
    (hother : Targets site arguments second) : second = location := by
  obtain ⟨made, hmade, hnames⟩ := targets_iff_makes.1 h
  obtain ⟨other, hmadeOther, hnamesOther⟩ := targets_iff_makes.1 hother
  cases hmade.unique hmadeOther
  exact hnamesOther.unique hnames

/-! ## The tree afterwards -/

theorem run_tree_of_makes (h : Makes site arguments made) : (run site arguments).tree = treeAfter site made := by
  obtain ⟨filter, hrun⟩ := @runOn_of_makes _ _ (filesOf site) _ h
  unfold run
  rw [hrun, carryOut_tree]
  rfl

theorem run_tree_of_not_makes (h : ∀ made, ¬ Makes site arguments made) : (run site arguments).tree = site.tree := by
  obtain ⟨transcript, htree, -, hrun⟩ := runOn_of_not_makes h
  unfold run
  rw [hrun, htree]

/-- **A run that has a target leaves the payload there**, and everything else as it was, if the process may write it. -/
theorem run_tree_of_targets (h : Targets site arguments location) (hfill : site.tree.mayFill location = true) :
    ∃ made, Makes site arguments made ∧ ∀ other, (run site arguments).tree.get? other =
      if other = location
      then some (.file (site.tree.caller.writtenMode location (site.tree.openedMode location made.options.mode) payload)
        payload)
      else site.tree.get? other := by
  obtain ⟨made, hmade, hnames⟩ := targets_iff_makes.1 h
  refine ⟨made, hmade, fun other => ?_⟩
  rw [run_tree_of_makes hmade]
  exact Tree.afterWriting_of_names hnames hfill made.options.mode payload other

/-- **A run that may not write its target leaves the tree as it was.** -/
theorem run_tree_of_closed (h : Targets site arguments location) (hfill : site.tree.mayFill location = false) :
    (run site arguments).tree = site.tree := by
  obtain ⟨made, hmade, hnames⟩ := targets_iff_makes.1 h
  rw [run_tree_of_makes hmade]
  exact Tree.afterWriting_of_closed hnames hfill made.options.mode payload

/-- **A run without a target leaves the tree as it was.** -/
theorem run_tree_of_not_targets (h : ∀ location, ¬ Targets site arguments location) :
    (run site arguments).tree = site.tree := by
  by_cases hmakes : ∃ made, Makes site arguments made
  · obtain ⟨made, hmade⟩ := hmakes
    rw [run_tree_of_makes hmade]
    refine Tree.afterWriting_of_not_names (fun location hnames => ?_) _ _
    exact h location (targets_iff_makes.2 ⟨made, hmade, hnames⟩)
  · exact run_tree_of_not_makes fun made hmade => hmakes ⟨made, hmade⟩

/-- a run with a target changes that one file, or nothing -/
theorem run_sameBut (h : Targets site arguments location) : site.tree.SameBut location (run site arguments).tree := by
  obtain ⟨made, hmakes, hnames⟩ := targets_iff_makes.1 h
  rw [run_tree_of_makes hmakes]
  exact Tree.sameBut_afterWriting hnames _ _

/-! ## The exit status -/

/-- what a run with a target gets back is its payload, or it may not read it -/
theorem tried_of_names (hnames : Names site.tree site.directory made.path location)
    (hfill : site.tree.mayFill location = true) :
    tried made (targetAt site made) =
      if site.tree.mayReadBack location made.options.mode
      then .done { requested := payload.length, data := payload }
      else .failed { path := made.path, failure := .call .opening .accessDenied } := by
  cases hread : site.tree.mayReadBack location made.options.mode with
  | true => exact Probe.roundTrip_of_names hnames hfill hread made.path made.options
  | false => exact Probe.roundTrip_of_unreadable hnames hfill hread made.path made.options

/-- a run that changes its target ends with zero or goes on, unless it may not read its payload back -/
theorem status_of_targets (h : Targets site arguments location) (hfill : site.tree.mayFill location = true) :
    (run site arguments).outcome.exitStatus? = some 0 ∨ (run site arguments).outcome.exitStatus? = none ∨
      (run site arguments).outcome.exitStatus? = some 2 ∧ ¬ ReadsTarget site arguments := by
  obtain ⟨made, hmade, hnames⟩ := targets_iff_makes.1 h
  obtain ⟨filter, hrun⟩ := @runOn_of_makes _ _ (filesOf site) _ hmade
  have htrip : tried made ((filesOf site).target made) = _ := tried_of_names hnames hfill
  unfold run
  rw [hrun]
  cases hread : site.tree.mayReadBack location made.options.mode with
  | false =>
    rw [hread] at htrip
    have hseen := carryOut_failed filter ((filesOf site).after made) htrip
    refine .inr (.inr ⟨congrArg Prod.fst hseen, fun hreads => ?_⟩)
    rw [hreads made location hmade hnames hfill] at hread
    cases hread
  | true =>
    rw [hread] at htrip
    have hseen := carryOut_accepted filter ((filesOf site).after made) htrip (judge_accepts fun _ => rfl)
    have hstatus := congrArg Prod.fst hseen
    cases honce : made.once with
    | true => rw [honce] at hstatus; exact .inl hstatus
    | false => rw [honce] at hstatus; exact .inr (.inl hstatus)

/-- a run that ends with a failure has left the tree as it was, unless it may not read back what it wrote -/
theorem run_tree_of_status {status : UInt8} (h : (run site arguments).outcome.exitStatus? = some status)
    (hstatus : status ≠ 0) :
    (run site arguments).tree = site.tree ∨ status = 2 ∧ ¬ ReadsTarget site arguments := by
  by_cases htargets : ∃ location, Targets site arguments location
  · obtain ⟨location, htargets⟩ := htargets
    cases hfill : site.tree.mayFill location with
    | false => exact .inl (run_tree_of_closed htargets hfill)
    | true =>
      rcases status_of_targets htargets hfill with hzero | hnone | ⟨htwo, hreads⟩
      · rw [hzero] at h
        cases h
        exact (hstatus rfl).elim
      · rw [hnone] at h
        cases h
      · rw [htwo] at h
        cases h
        exact .inr ⟨rfl, hreads⟩
  · exact .inl (run_tree_of_not_targets fun location hlocation => htargets ⟨location, hlocation⟩)

theorem run_tree_of_stop {stop : Stop} (h : parse arguments = .error stop) :
    (run site arguments).tree = site.tree := by
  refine run_tree_of_not_makes fun made hmade => ?_
  obtain ⟨_, _, hparse, -, -⟩ := hmade
  rw [h] at hparse
  cases hparse

/-- what a run does to the files of a site -/
structure Touches (site : Site) (arguments : List String) : Prop where
  /-- there is one file at most that it may change; it is left with the payload, and with the permissions it had -/
  target (location : Location) : Targets site arguments location →
    site.tree.TakesFile location ∧ (∀ other, Targets site arguments other → other = location) ∧
    (site.tree.mayFill location = true →
      ∃ mode, (run site arguments).tree.get? location = some (.file mode payload) ∧
        ∀ old content, site.tree.get? location = some (.file old content) →
          KeepsPermissions site.tree.caller location old mode)
  elsewhere (location : Location) : ¬ Targets site arguments location →
    (run site arguments).tree.get? location = site.tree.get? location
  /-- a target that the process may not write, or not create, is left alone -/
  closed (location : Location) : Targets site arguments location → site.tree.mayFill location = false →
    (run site arguments).tree = site.tree
  /-- so is everything when the arguments ask for nothing to be done -/
  stopped (stop : Stop) : parse arguments = .error stop → (run site arguments).tree = site.tree
  /-- or when the run fails, unless it fails to read back what it wrote because the process may not -/
  failed (status : UInt8) : (run site arguments).outcome.exitStatus? = some status → status ≠ 0 →
    (run site arguments).tree = site.tree ∨ status = 2 ∧ ¬ ReadsTarget site arguments

/-- **What a run may touch.** A run changes at most one location, which holds a file or nothing before: the one its path
names, once the arguments are accepted and give a path, the settings load and they pass the check. There it leaves the
payload, and the permissions of the file if there was one, provided that the process may write or create the file; if
not, the tree is what it was. So it is if the arguments ask for nothing to be done, and if the run ends with another
status than zero, other than for not being let read what it wrote. -/
theorem tree_run (site : Site) (arguments : List String) : Touches site arguments where
  target location htargets := by
    obtain ⟨_, -, hnames⟩ := targets_iff_makes.1 htargets
    refine ⟨hnames.takesFile, fun other hother => htargets.unique hother, fun hfill => ?_⟩
    obtain ⟨made, -, htree⟩ := run_tree_of_targets htargets hfill
    refine ⟨_, by rw [htree, if_pos rfl], ?_⟩
    intro old content hold
    rw [Tree.openedMode_of_file hold, Caller.writtenMode_modeAfterChange]
    exact Caller.modeAfterChange_keeps site.tree.caller location old
  elsewhere location hnot := by
    by_cases hsome : ∃ other, Targets site arguments other
    · obtain ⟨other, htargets⟩ := hsome
      refine ((run_sameBut htargets).elsewhere location ?_).symm
      rintro rfl
      exact hnot htargets
    · rw [run_tree_of_not_targets fun other htargets => hsome ⟨other, htargets⟩]
  closed _ htargets hfill := run_tree_of_closed htargets hfill
  stopped _ hstop := run_tree_of_stop hstop
  failed _ hends hstatus := run_tree_of_status hends hstatus

/-! A path that is a link to a longer file, and a file with a set-user-id bit. Neither site has settings of its own; the
first one's process owns the file and has no privilege. -/

def aliasSite : Site where
  tree := {
    entries := [
      (["t"], .link "d/x"), (["d"], .directory), (["d", "x"], .file 0o640 (Text.encode "longer than the payload"))]
    caller := { overrides _ := false } }
  directory := []
  home := none
  environment _ := none

theorem alias_targets : Targets aliasSite ["t", "--once"] ["d", "x"] := by
  have hleads : Leads aliasSite.tree linkLimit [] ["t"] ["d", "x"] := by
    refine .follow ⟨by decide, by decide, by cbv, rfl⟩ rfl ?_
    refine .enter ⟨by decide, by decide, by cbv, rfl⟩ rfl ?_
    exact .last ⟨by decide, by decide, by cbv, rfl⟩ (.inr ⟨_, _, rfl⟩)
  have hnames : Names aliasSite.tree [] "t" ["d", "x"] := ⟨by decide, by decide, by cbv, hleads⟩
  exact ⟨{ path := some "t", once := true }, Settings.default, "t", by cbv, rfl, load_of_nothing rfl, by cbv, hnames⟩

/-- the sample's run writes the file behind the link and keeps its mode; runs that are refused touch nothing -/
theorem alias_tree_run :
    Targets aliasSite ["t", "--once"] ["d", "x"] ∧ aliasSite.tree.mayFill ["d", "x"] = true ∧
    (run aliasSite ["t", "--once"]).tree.get? ["d", "x"] = some (.file 0o640 payload) ∧
    ¬ Targets aliasSite ["t", "--once"] ["t"] ∧
    (run aliasSite ["t", "--once"]).tree.get? ["t"] = some (.link "d/x") ∧
    parse ["t", "--help"] = .error .help ∧ (run aliasSite ["t", "--help"]).tree = aliasSite.tree ∧
    (run aliasSite []).outcome.exitStatus? = some 1 ∧ (run aliasSite []).tree = aliasSite.tree := by
  have hhelp : parse ["t", "--help"] = .error .help := by cbv
  have hloads : load aliasSite.tree aliasSite.directory aliasSite.home aliasSite.environment ≠ .waits := by
    have hload : load aliasSite.tree aliasSite.directory aliasSite.home aliasSite.environment =
        .done Settings.default := load_of_nothing rfl
    rw [hload]
    simp
  have hends : Ends aliasSite (filesOf aliasSite) [] (some 1) (usageLine ++ "\n") :=
    .noPath (by cbv : parse [] = .ok {}) rfl
  have hstatus : (run aliasSite []).outcome.exitStatus? = some 1 := congrArg Prod.fst (hends.seen hloads)
  have hlink : ¬ Targets aliasSite ["t", "--once"] ["t"] := by
    intro h
    exact absurd (alias_targets.unique h) (by decide)
  have hfill : aliasSite.tree.mayFill ["d", "x"] = true := by decide
  obtain ⟨mode, hfile, hmode⟩ := ((tree_run aliasSite ["t", "--once"]).target _ alias_targets).2.2 hfill
  have hplain : mode = 0o640 := (hmode _ _ rfl).plain (by decide)
  refine ⟨alias_targets, hfill, ?_, hlink, ?_, hhelp, ?_, hstatus, ?_⟩
  · rw [hfile, hplain]
  · exact (tree_run aliasSite ["t", "--once"]).elsewhere _ hlink
  · exact (tree_run aliasSite ["t", "--help"]).stopped _ hhelp
  · exact ((tree_run aliasSite []).failed 1 hstatus (by decide)).resolve_right fun h => absurd h.1 (by decide)

def setuidSite : Site where
  tree := { entries := [(["t"], .file 0o4755 [])] }
  directory := []
  home := none
  environment _ := none

theorem setuid_targets : Targets setuidSite ["t", "--once"] ["t"] := by
  have hnames : Names setuidSite.tree [] "t" ["t"] :=
    ⟨by decide, by decide, by cbv, .last ⟨by decide, by decide, by cbv, rfl⟩ (.inr ⟨_, _, rfl⟩)⟩
  exact ⟨{ path := some "t", once := true }, Settings.default, "t", by cbv, rfl, load_of_nothing rfl, by cbv, hnames⟩

/-- a run without the privilege to keep it takes the set-user-id bit of its target away -/
theorem setuid_taken :
    Targets setuidSite ["t", "--once"] ["t"] ∧ setuidSite.tree.get? ["t"] = some (.file 0o4755 []) ∧
    setuidSite.tree.caller.keepsSetIds = false ∧
    (run setuidSite ["t", "--once"]).tree.get? ["t"] = some (.file 0o755 payload) := by
  obtain ⟨made, -, htree⟩ := run_tree_of_targets setuid_targets rfl
  have hold : setuidSite.tree.get? ["t"] = some (.file 0o4755 []) := rfl
  have hmode : setuidSite.tree.caller.modeAfterChange ["t"] 0o4755 = 0o755 := by decide
  refine ⟨setuid_targets, hold, rfl, ?_⟩
  rw [htree, if_pos rfl, Tree.openedMode_of_file hold, Caller.writtenMode_modeAfterChange, hmode]

end BlockProbe.Command
