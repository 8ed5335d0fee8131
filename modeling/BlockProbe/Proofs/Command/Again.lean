/-
A second run.

A run changes at most one file, and the run after it finds its configuration as it was, unless that file is part of it.
Then the second run makes the same plan, meets a target that takes the payload in the same way, and writes what is
there. For that the process must be allowed to open the target once more. It is, unless the first run created the target
with a mode that keeps the process itself from writing it.

- `load_sameBut`: settings load as before where a file comes or changes that no configuration path names.
- `opensAgain_of_created`: when the process may open a file that it has created.
- `run_again`: the second run is the first once more.
- `opensAgain_of_run_again`: only then is it.
-/
import BlockProbe.Proofs.Command.Masked
import BlockProbe.Proofs.Command.Touched

namespace BlockProbe.Command

open BlockProbe.Files
open BlockProbe.Probe (payload)
open BlockProbe.Settings

/-- the paths at which configuration files are looked for -/
def Site.configuration (site : Site) : List String := (site.home.map globalPath).toList ++ [projectPath]

/-- a site as a run leaves it -/
def Site.after (site : Site) (arguments : List String) : Site := { site with tree := (run site arguments).tree }

/-- once the run is over, no configuration path leads to the file that it wrote -/
def LeavesConfiguration (site : Site) (arguments : List String) : Prop :=
  ∀ location, Targets site arguments location → ∀ path ∈ site.configuration, ∀ node,
    resolve (run site arguments).tree .use site.directory path ≠ .ok (.existing location node)

/-- a file that the run creates, the process may open for writing again -/
def OpensAgain (site : Site) (arguments : List String) : Prop :=
  ∀ location, Targets site arguments location → site.tree.get? location = none →
    site.tree.mayFill location = true → (run site arguments).tree.mayFill location = true

variable {site : Site} {arguments : List String} {made : Plan} {location : Location}

/-! ## Loading -/

theorem readLayer_sameBut {first second : Tree} (hsame : first.SameBut location second) {start : Location}
    {path : String} (hnames : ¬ Names first start path location) :
    readLayer first start path = readLayer second start path := by
  unfold readLayer
  rw [← Tree.hasPath_sameBut hsame hnames]
  by_cases hpath : first.hasPath start path = true
  · rw [if_pos hpath, if_pos hpath, Tree.readText_sameBut hsame hnames hpath]
  · rw [if_neg hpath, if_neg hpath]

/-- **The same settings.** Where a file comes or changes that no configuration path names, settings load as before. -/
theorem load_sameBut {first second : Tree} (hsame : first.SameBut location second) {start : Location}
    {home : Option String} (hnames : ∀ path ∈ (home.map globalPath).toList ++ [projectPath],
      ¬ Names first start path location) (environment : Environment) :
    load first start home environment = load second start home environment := by
  have hproject : readLayer first start projectPath = readLayer second start projectPath :=
    readLayer_sameBut hsame (hnames _ (by simp))
  unfold load loadFiles
  cases home with
  | none => simp only [Option.map_none, hproject]
  | some home =>
    have hglobal : readLayer first start (globalPath home) = readLayer second start (globalPath home) :=
      readLayer_sameBut hsame (hnames _ (by simp))
    simp only [Option.map_some, hproject, hglobal]

/-! ## Running -/

@[simp] theorem after_tree (site : Site) (arguments : List String) :
    (site.after arguments).tree = (run site arguments).tree := rfl

/-- a path that names the file that a run writes leads to it afterwards -/
theorem leads_after (h : Targets site arguments location) (hfill : site.tree.mayFill location = true) {path : String}
    (hnames : Names site.tree site.directory path location) :
    ∃ node, resolve (run site arguments).tree .use site.directory path = .ok (.existing location node) := by
  obtain ⟨_, -, htree⟩ := run_tree_of_targets h hfill
  have hfile := htree location
  rw [if_pos rfl] at hfile
  have hnamesAfter := (names_sameButFiles (run_sameBut h).sameButFiles).1 hnames
  obtain ⟨place, hresolve, rfl | ⟨mode, content, rfl⟩⟩ := names_iff_use.1 hnamesAfter
  · have hnone := (resolve_at hresolve).2
    rw [hfile] at hnone
    cases hnone
  · exact ⟨_, hresolve⟩

/-- a run that leaves the tree as it is leaves its site as it is -/
theorem after_of_tree (h : (run site arguments).tree = site.tree) : site.after arguments = site := by
  unfold Site.after
  rw [h]

/-- what a run carries out, with the filter -/
theorem run_of_plan {request : Request} {settings : Settings} (hparse : parse arguments = .ok request)
    (hload : load site.tree site.directory site.home site.environment = .done settings)
    (hplan : plan request (.ok settings) = .ok made) :
    run site arguments =
      carryOut made (targetAt site made)
        (Log.Filter.inForce (site.environment "RUST_LOG") (logLevel request (.ok settings))) (treeAfter site made) := by
  have hloaded : load site.tree site.directory site.home site.environment = .ofExcept (.ok settings) := hload
  unfold run
  rw [runOn_of_load _ hparse hloaded, proceed_of_plan hplan]
  rfl

/-- settings load as before when a run has written its target -/
theorem load_again (h : LeavesConfiguration site arguments) (htargets : Targets site arguments location)
    (hfill : site.tree.mayFill location = true) :
    load (site.after arguments).tree site.directory site.home site.environment =
      load site.tree site.directory site.home site.environment := by
  refine (load_sameBut (run_sameBut htargets) (fun path hpath hnames => ?_) site.environment).symm
  obtain ⟨node, hleads⟩ := leads_after htargets hfill hnames
  exact h location htargets path hpath node hleads

/-- what was there and was written may be written again -/
theorem mayFill_again (hagain : OpensAgain site arguments) (hmakes : Makes site arguments made)
    (hnames : Names site.tree site.directory made.path location) (hfill : site.tree.mayFill location = true) :
    (treeAfter site made).mayFill location = true := by
  rcases hnames.takesFile with hfree | ⟨mode, content, hfile⟩
  · rw [← run_tree_of_makes hmakes]
    exact hagain location (targets_iff_makes.2 ⟨made, hmakes, hnames⟩) hfree hfill
  · exact Tree.mayFill_afterWriting hnames hfill hfile made.options.mode payload

/-- **Only then.** If the second run is the first once more, the process may open again what the first run created. -/
theorem opensAgain_of_run_again (h : LeavesConfiguration site arguments)
    (hsame : run (site.after arguments) arguments = run site arguments) : OpensAgain site arguments := by
  intro location htargets _ hfill
  by_contra hclosed
  have hclosed : (run site arguments).tree.mayFill location = false := by simpa using hclosed
  obtain ⟨made, ⟨request, settings, hparse, hsettings, hplan⟩, hnames⟩ := targets_iff_makes.1 htargets
  have hfirst := congrArg Transcript.outcome (run_of_plan hparse hsettings hplan)
  have hsecond := congrArg Transcript.outcome
    (run_of_plan hparse ((load_again h htargets hfill).trans hsettings) hplan)
  -- the second run may not write, and the first one did
  have hnamesAfter := (names_sameButFiles (run_sameBut htargets).sameButFiles).1 hnames
  have hrefused : tried made (targetAt (site.after arguments) made) =
      .failed { path := made.path, failure := .call .write .accessDenied } :=
    Probe.roundTrip_of_closed hnamesAfter hclosed made.path made.options
  rw [carryOut_failed_outcome _ _ hrefused] at hsecond
  rw [hsame, hfirst] at hsecond
  have htried := tried_of_names hnames hfill
  cases hread : site.tree.mayReadBack location made.options.mode with
  | false =>
    rw [hread] at htried
    rw [carryOut_failed_outcome _ _ htried] at hsecond
    simp at hsecond
  | true =>
    rw [hread] at htried
    have hseen := congrArg Prod.fst (carryOut_accepted (Log.Filter.inForce (site.environment "RUST_LOG")
      (logLevel request (.ok settings))) (treeAfter site made) htried (judge_accepts fun _ => rfl))
    have hstatus : (Outcome.failed (.probe { path := made.path, failure := .call .write .accessDenied })).exitStatus? =
        some 2 := rfl
    unfold Transcript.seen at hseen
    rw [hsecond, hstatus] at hseen
    cases honce : made.once <;> simp [honce] at hseen

/-- **When the process may open again what it created**: where the mode of the new file lets it. -/
theorem opensAgain_of_created
    (h : ∀ made location, Makes site arguments made → Names site.tree site.directory made.path location →
      site.tree.caller.mayOpen .write location
        (.file (site.tree.caller.createdMode location made.options.mode) []) = true) :
    OpensAgain site arguments := by
  intro location htargets hfree hfill
  obtain ⟨made, hmakes, hnames⟩ := targets_iff_makes.1 htargets
  have hfile := Tree.created_of_names hnames hfree hfill made.options.mode payload
  rw [run_tree_of_makes hmakes, treeAfter, Tree.mayFill_of_file hfile, Tree.afterWriting_caller,
    Caller.mayOpen_congr (Caller.writtenMode_permissions _ _ _ _) payload []]
  exact h made location hmakes hnames

/-! A site with a configuration file, and a target that the first run creates next to it. -/

theorem siteHolding_names (text : String) :
    Names (siteHolding text).tree (siteHolding text).directory "t" ["work", "t"] :=
  ⟨by decide, by decide, by cbv, .last ⟨by decide, by decide, by cbv, rfl⟩ (.inl rfl)⟩

theorem siteHolding_configuration (text : String) :
    Names (siteHolding text).tree (siteHolding text).directory projectPath ["work", ".nvprobe", "config.toml"] :=
  names_iff_use.2 ⟨_, resolve_projectPath_file rfl rfl rfl rfl, .inr ⟨_, _, rfl⟩⟩

theorem tenSite_loads : load (siteHolding tenText).tree (siteHolding tenText).directory (siteHolding tenText).home
    (siteHolding tenText).environment = .done { heartbeat.intervalSecs := 10 } := by
  have htable : Toml.readTable tenText = some (intervalTable 10) :=
    Toml.readTable_of_statements (by decide) (by cbv) (assemble_interval 10)
  have hfinish : (ofLayers [none, some (intervalTable 10)] >>= finish fun _ => none) =
      .ok { heartbeat.intervalSecs := 10 } := by cbv
  rw [load_of_layers (siteHolding_layers htable)]
  exact congrArg Attempt.ofExcept hfinish

theorem tenSite_makes : Makes (siteHolding tenText) ["t", "--once"] barePlan :=
  ⟨{ path := some "t", once := true }, { heartbeat.intervalSecs := 10 }, by cbv, tenSite_loads, by cbv⟩

theorem tenSite_leaves : LeavesConfiguration (siteHolding tenText) ["t", "--once"] := by
  intro location htargets path hpath node hleads
  obtain ⟨made, hmakes, htarget⟩ := targets_iff_makes.1 htargets
  cases hmakes.unique tenSite_makes
  have hproject : path = projectPath := by simpa [Site.configuration, siteHolding] using hpath
  subst hproject
  cases htarget.unique (siteHolding_names tenText)
  have hother : ¬ Names (siteHolding tenText).tree (siteHolding tenText).directory projectPath ["work", "t"] :=
    fun hnames => absurd (hnames.unique (siteHolding_configuration tenText)) (by decide)
  rw [← resolve_sameBut (run_sameBut htargets) hother, resolve_projectPath_file rfl rfl rfl rfl] at hleads
  simp [siteHolding] at hleads

theorem tenSite_opensAgain : OpensAgain (siteHolding tenText) ["t", "--once"] := by
  refine opensAgain_of_created fun made location hmakes _ => ?_
  cases hmakes.unique tenSite_makes
  exact Caller.mayOpen_of_bit rfl (by decide : (0o644 : UInt32) &&& 0o200 ≠ 0) _

end BlockProbe.Command
