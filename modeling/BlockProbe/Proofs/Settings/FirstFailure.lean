/-
The first stage of loading that fails.

Each stage reads what it reads itself and what the stages before it read. So of two runs that read the same up to the
stage that fails first, both end with its error, however much else is wrong with either.

- `Sources.FirstFails.congr`: what is read after the first failure has no part in it.
- `load_by_stages`: loading, stage by stage.
-/
import BlockProbe.Proofs.Settings.RoundTrip
import BlockProbe.Proofs.Settings.Stages

namespace BlockProbe.Settings

open BlockProbe.Files

namespace Sources

/-! ## What a stage reads -/

/-- what a stage reads itself is the same in both -/
def SameInput (first second : Sources) : LoadStage → Prop
  | .read file => first.text file = second.text file
  | .override which => first.environment which.name = second.environment which.name
  | _ => True

/-- what is read up to a stage is the same in both -/
def SameUpTo (first second : Sources) (stage : LoadStage) : Prop :=
  first.SameInput second stage ∧ ∀ before ∈ stage.earlier, first.SameInput second before

variable {sources first second : Sources} {file : ConfigFile} {stage : LoadStage} {error : LoadError}

theorem SameUpTo.before {before : LoadStage} (h : first.SameUpTo second stage) (hbefore : before ∈ stage.earlier) :
    first.SameUpTo second before :=
  ⟨h.2 before hbefore, fun _ hmem => h.2 _ (mem_before_trans hmem hbefore)⟩

/-- what the files give depends on their texts -/
theorem SameUpTo.tables (h : first.SameUpTo second .decode) (file : ConfigFile) :
    first.table? file = second.table? file := by
  have htext : first.text file = second.text file := h.2 _ (LoadStage.read_before_decode file)
  unfold table?
  rw [htext]

theorem SameUpTo.decoded (h : first.SameUpTo second .decode) : first.decoded? = second.decoded? := by
  unfold decoded?
  rw [h.tables .operator, h.tables .project]

theorem SameUpTo.fails (h : first.SameUpTo second stage) (hfails : first.Fails stage error) :
    second.Fails stage error := by
  cases stage with
  | read file =>
    obtain ⟨fault, htext, rfl⟩ := hfails
    exact ⟨fault, h.1.symm.trans htext, rfl⟩
  | parse file =>
    obtain ⟨text, htext, hparse⟩ := hfails
    have hsame : first.text file = second.text file := h.2 _ (LoadStage.read_before_parse file)
    exact ⟨text, hsame.symm.trans htext, hparse⟩
  | decode =>
    obtain ⟨lower, upper, hlower, hupper, hlayers⟩ := hfails
    exact ⟨lower, upper, (h.tables .operator).symm.trans hlower, (h.tables .project).symm.trans hupper, hlayers⟩
  | override which =>
    obtain ⟨reason, ⟨text, hset, hrefused⟩, rfl⟩ := hfails
    exact ⟨reason, ⟨text, h.1.symm.trans hset, hrefused⟩, rfl⟩
  | check rule =>
    have hdecoded := (h.before (LoadStage.decode_before_check rule)).decoded
    cases rule with
    | interval =>
      have hset : first.environment "NVPROBE_HEARTBEAT_SECS" = second.environment "NVPROBE_HEARTBEAT_SECS" :=
        h.2 _ (LoadStage.override_before_check .interval .interval)
      obtain ⟨hzero, rfl⟩ := hfails
      refine ⟨?_, rfl⟩
      unfold interval? at hzero ⊢
      rwa [← hset, ← hdecoded]
    | fileMode =>
      obtain ⟨settings, hsettings, hexceeds, rfl⟩ := hfails
      exact ⟨settings, hdecoded.symm.trans hsettings, hexceeds, rfl⟩

theorem SameInput.symm (h : first.SameInput second stage) : second.SameInput first stage := by
  cases stage with
  | read file => exact Eq.symm h
  | override which => exact Eq.symm h
  | _ => trivial

theorem SameUpTo.symm (h : first.SameUpTo second stage) : second.SameUpTo first stage :=
  ⟨h.1.symm, fun before hmem => (h.2 before hmem).symm⟩

theorem SameUpTo.passes (h : first.SameUpTo second stage) (hpasses : first.Passes stage) : second.Passes stage := by
  refine ⟨fun error hfails => hpasses.1 error (h.symm.fails hfails), fun hwaits => ?_⟩
  cases stage with
  | read file => exact hpasses.2 (h.1.trans hwaits)
  | _ => exact hwaits

/-- **What later stages read** has no part in the first failure. -/
theorem FirstFails.congr (h : first.FirstFails stage error) (hsame : first.SameUpTo second stage) :
    second.FirstFails stage error :=
  ⟨hsame.fails h.1, fun before hmem => (hsame.before hmem).passes (h.2 before hmem)⟩

/-- an operator's file that is at fault is so whatever the project's file holds -/
theorem sameUpTo_of_operator {tree : Tree} (htext : sources.text .operator = { sources with tree }.text .operator)
    (hstage : stage ∈ [.read .operator, LoadStage.parse .operator]) : sources.SameUpTo { sources with tree } stage := by
  rcases List.mem_pair.1 hstage with rfl | rfl
  · exact ⟨htext, by simp [LoadStage.earlier, LoadStage.all]⟩
  · refine ⟨trivial, fun before hmem => ?_⟩
    obtain rfl : before = .read .operator := by simpa [LoadStage.earlier, LoadStage.all] using hmem
    exact htext

/-- no file's stage reads a variable -/
theorem sameUpTo_of_files (sources : Sources) (environment : Environment)
    (hstage : stage ∈ LoadStage.decode :: LoadStage.decode.earlier) :
    sources.SameUpTo { sources with environment } stage := by
  have hdecode : sources.SameUpTo { sources with environment } .decode := by
    refine ⟨trivial, fun before hmem => ?_⟩
    have hcases : before = .read .operator ∨ before = .parse .operator ∨ before = .read .project ∨
        before = .parse .project := by simpa [LoadStage.earlier, LoadStage.all] using hmem
    rcases hcases with rfl | rfl | rfl | rfl
    · rfl
    · trivial
    · rfl
    · trivial
  rcases List.mem_cons.1 hstage with rfl | hbefore
  · exact hdecode
  · exact hdecode.before hbefore

/-- a variable's stage reads no variable behind it -/
theorem sameUpTo_of_variables {which : Variable} {environment : Environment}
    (h : ∀ read, read = which ∨ read ∈ which.earlier → sources.environment read.name = environment read.name) :
    sources.SameUpTo { sources with environment } (.override which) := by
  refine ⟨h which (.inl rfl), fun before hmem => ?_⟩
  cases before with
  | override read => exact h read (.inr (LoadStage.variable_of_before hmem))
  | read file => rfl
  | _ => trivial

/-- an interval in force that is not zero passes its check -/
theorem passes_interval {secs : UInt64} (hinterval : sources.interval? = some secs) (hnonzero : secs ≠ 0) :
    sources.Passes (.check .interval) := by
  refine ⟨?_, id⟩
  rintro error ⟨hzero, -⟩
  exact hnonzero (Option.some.inj (hinterval.symm.trans hzero))

end Sources

/-- loading, stage by stage -/
structure ByStages (sources : Sources) : Prop where
  /-- settings are loaded if every stage passes -/
  succeeds : (∃ settings, sources.load = .done settings) ↔ ∀ stage, sources.Passes stage
  /-- otherwise the first that does not pass decides -/
  fails : ∀ error, sources.load = .failed error ↔ ∃ stage, sources.FirstFails stage error
  waits : sources.load = .waits ↔ ∃ stage, sources.FirstWaits stage
  /-- and whatever is read after it may be anything else -/
  later : ∀ stage error, sources.FirstFails stage error →
    ∀ other, sources.SameUpTo other stage → other.load = .failed error
  /-- so may any file that the operator's path does not name, where the operator's file is at fault -/
  projectReplaced : ∀ stage ∈ [.read .operator, LoadStage.parse .operator], ∀ error, sources.FirstFails stage error →
    ∀ tree location, sources.tree.SameBut location tree →
      (∀ path, sources.path? .operator = some path → ¬ Names sources.tree sources.start path location) →
      { sources with tree }.load = .failed error
  /-- all variables, where the files are -/
  environmentReplaced : ∀ stage ∈ LoadStage.decode :: LoadStage.decode.earlier, ∀ error,
    sources.FirstFails stage error → ∀ environment, { sources with environment }.load = .failed error
  /-- and the variables behind one that is refused -/
  variablesReplaced : ∀ which error, sources.FirstFails (.override which) error → ∀ environment : Environment,
    (∀ read, read = which ∨ read ∈ which.earlier → sources.environment read.name = environment read.name) →
    { sources with environment }.load = .failed error
  /-- a file that no path leads to is skipped -/
  missing : ∀ file, (∀ path, sources.path? file = some path → sources.tree.hasPath sources.start path = false) →
    sources.Passes (.read file) ∧ sources.Passes (.parse file) ∧ sources.table? file = some none
  /-- a directory, or a file that is no text, cannot be read -/
  directory : ∀ file path location, sources.path? file = some path →
    resolve sources.tree .use sources.start path = .ok (.existing location .directory) →
    sources.Fails (.read file) (.unreadable
      (if sources.tree.caller.mayOpen .read location .directory then .isDirectory else .accessDenied))
  notText : ∀ file path location mode bytes, sources.path? file = some path →
    resolve sources.tree .use sources.start path = .ok (.existing location (.file mode bytes)) →
    Text.decode? bytes = none → sources.Fails (.read file) (.unreadable
      (if sources.tree.caller.mayOpen .read location (.file mode bytes) then .notUtf8 else .accessDenied))
  /-- nor can anything that the process may not open -/
  closed : ∀ file path location node, sources.path? file = some path →
    resolve sources.tree .use sources.start path = .ok (.existing location node) →
    sources.tree.caller.mayOpen .read location node = false →
    sources.Fails (.read file) (.unreadable .accessDenied)
  /-- an interval that the variable replaces by one that is not zero passes its check, whatever the files say -/
  zeroReplaced : ∀ text secs, sources.environment "NVPROBE_HEARTBEAT_SECS" = some text → readInterval text = .ok secs →
    secs ≠ 0 → sources.Passes (.check .interval) ∧
      ((∀ stage, stage ≠ .check .interval → sources.Passes stage) →
        ∃ settings, sources.load = .done settings ∧ settings.heartbeat.intervalSecs = secs)

open Sources in
/-- **The earliest failing stage decides the error.** -/
theorem load_by_stages (sources : Sources) : ByStages sources where
  succeeds := load_done_iff
  fails _ := load_failed_iff
  waits := load_waits_iff
  later _ _ hfirst _ hsame := load_of_firstFails (hfirst.congr hsame)
  projectReplaced _ hstage _ hfirst _ _ hsame hnames :=
    load_of_firstFails (hfirst.congr (sameUpTo_of_operator (text_sameBut hsame hnames) hstage))
  environmentReplaced _ hstage _ hfirst environment :=
    load_of_firstFails (hfirst.congr (sameUpTo_of_files sources environment hstage))
  variablesReplaced _ _ hfirst _ hsame := load_of_firstFails (hfirst.congr (sameUpTo_of_variables hsame))
  missing file hmissing := by
    refine passes_of_text_none ?_
    cases hpath : sources.path? file with
    | none => exact text_of_no_path hpath
    | some path => exact text_of_missing hpath (hmissing path hpath)
  directory _ _ location hpath hnode := by
    cases hopen : sources.tree.caller.mayOpen .read location .directory with
    | true => exact ⟨_, text_of_directory hpath hnode hopen, rfl⟩
    | false => exact ⟨_, text_of_closed hpath hnode hopen, rfl⟩
  notText _ _ location mode bytes hpath hnode hbytes := by
    cases hopen : sources.tree.caller.mayOpen .read location (.file mode bytes) with
    | true =>
      refine ⟨_, ?_, rfl⟩
      rw [text_of_bytes hpath hnode hopen, hbytes]
      rfl
    | false => exact ⟨_, text_of_closed hpath hnode hopen, rfl⟩
  closed _ _ _ _ hpath hnode hopen := ⟨_, text_of_closed hpath hnode hopen, rfl⟩
  zeroReplaced text secs hset hread hnonzero := by
    have hinterval : sources.interval? = some secs := by
      unfold interval?
      rw [hset]
      exact toOption_eq_some.2 hread
    have hpasses := passes_interval hinterval hnonzero
    refine ⟨hpasses, fun hothers => ?_⟩
    obtain ⟨settings, hload, hforce⟩ := load_of_passes fun stage =>
      if hstage : stage = .check .interval then hstage ▸ hpasses else hothers stage hstage
    exact ⟨settings, hload, Option.some.inj (hforce.symm.trans hinterval)⟩

/-! A project's file that is no text, and variables that are refused besides; a file with an interval of zero. -/

def unreadableSources : Sources where
  tree := treeHolding [0xFF]
  start := ["work"]
  home := none
  environment := stoppedEnvironment

def zeroSettings : Settings := { heartbeat := { intervalSecs := 0 } }

def zeroSources : Sources where
  tree := treeHolding (Text.encode (String.ofList (printed zeroSettings)))
  start := ["work"]
  home := none
  environment := fun name => if name = "NVPROBE_HEARTBEAT_SECS" then some " 5 " else none

theorem unreadable_firstFails : unreadableSources.FirstFails (.read .project) (.unreadable .notUtf8) := by
  have hpath : unreadableSources.path? .project = some projectPath := rfl
  have hfile := Sources.text_of_bytes hpath (resolve_projectPath_file rfl rfl rfl rfl) rfl
  have hnone : unreadableSources.text .operator = .done none := Sources.text_of_no_path rfl
  obtain ⟨hread, hparse, -⟩ := Sources.passes_of_text_none hnone
  refine ⟨⟨.notUtf8, hfile, rfl⟩, fun before hmem => ?_⟩
  have hcases : before = .read .operator ∨ before = .parse .operator := by
    simpa [LoadStage.earlier, LoadStage.all] using hmem
  rcases hcases with rfl | rfl
  · exact hread
  · exact hparse

theorem zeroSources_text : zeroSources.text .project = .done (some (String.ofList (printed zeroSettings))) := by
  have hpath : zeroSources.path? .project = some projectPath := rfl
  rw [Sources.text_of_bytes hpath (resolve_projectPath_file rfl rfl rfl rfl) rfl, Text.decode?_encode]
  rfl

theorem zeroSettings_table : parse (String.ofList (printed zeroSettings)) = .ok (spelledOut zeroSettings) := by
  rw [parse, readTable_printed (by decide)]

theorem zeroSources_tables : zeroSources.table? .operator = some none ∧
    zeroSources.table? .project = some (some (spelledOut zeroSettings)) := by
  refine ⟨rfl, ?_⟩
  unfold Sources.table?
  rw [zeroSources_text]
  dsimp only
  rw [zeroSettings_table]
  rfl

theorem zeroSources_decoded : zeroSources.decoded? = some zeroSettings := by
  unfold Sources.decoded?
  rw [zeroSources_tables.1, zeroSources_tables.2]
  show (ofLayers [none, some (spelledOut zeroSettings)]).toOption = some zeroSettings
  rw [(ofLayers_spelledOut (by decide)).2]
  rfl

/-- every stage but the check of the interval passes for what the files hold alone -/
theorem zeroSources_passes (stage : LoadStage) (h : stage ≠ .check .interval) : zeroSources.Passes stage := by
  have hnone : zeroSources.text .operator = .done none := Sources.text_of_no_path rfl
  obtain ⟨hread, hparse, -⟩ := Sources.passes_of_text_none hnone
  cases stage with
  | read file =>
    cases file with
    | operator => exact hread
    | project =>
      refine ⟨?_, fun hwaits => by cases zeroSources_text.symm.trans hwaits⟩
      rintro error ⟨fault, hfailed, -⟩
      cases zeroSources_text.symm.trans hfailed
  | parse file =>
    cases file with
    | operator => exact hparse
    | project =>
      refine ⟨?_, id⟩
      rintro error ⟨text, htext, hfailed⟩
      have hprinted := Option.some.inj (Attempt.done.inj (zeroSources_text.symm.trans htext))
      rw [← hprinted, zeroSettings_table] at hfailed
      cases hfailed
  | decode =>
    refine ⟨?_, id⟩
    rintro error ⟨lower, upper, hlower, hupper, hfailed⟩
    cases zeroSources_tables.1.symm.trans hlower
    cases zeroSources_tables.2.symm.trans hupper
    have hlayers : ofLayers [none, some (spelledOut zeroSettings)] = .ok zeroSettings :=
      (ofLayers_spelledOut (by decide)).2
    cases hlayers.symm.trans hfailed
  | override which =>
    refine ⟨?_, id⟩
    rintro error ⟨reason, ⟨text, hset, hnot, -⟩, -⟩
    cases which with
    | interval => cases hset; exact hnot ⟨5, by cbv⟩
    | _ => cases hset
  | check rule =>
    cases rule with
    | interval => exact (h rfl).elim
    | fileMode =>
      refine ⟨?_, id⟩
      rintro error ⟨settings, hsettings, hexceeds, -⟩
      cases zeroSources_decoded.symm.trans hsettings
      exact absurd hexceeds (by decide)

theorem unreadable_and_zero_by_stages :
    (unreadableSources.load = .failed (.unreadable .notUtf8) ∧
      { unreadableSources with environment := resumedEnvironment }.load = .failed (.unreadable .notUtf8)) ∧
    zeroSources.decoded? = some zeroSettings ∧
      ∃ settings, zeroSources.load = .done settings ∧ settings.heartbeat.intervalSecs = 5 := by
  have hunreadable := load_by_stages unreadableSources
  have hzero := (load_by_stages zeroSources).zeroReplaced " 5 " 5 rfl (by cbv) (by decide)
  exact ⟨⟨(hunreadable.fails _).2 ⟨_, unreadable_firstFails⟩,
    hunreadable.environmentReplaced _ (by decide) _ unreadable_firstFails resumedEnvironment⟩,
    zeroSources_decoded, hzero.2 zeroSources_passes⟩

end BlockProbe.Settings
