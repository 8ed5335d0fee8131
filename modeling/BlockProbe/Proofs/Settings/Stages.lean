/-
The stages of loading.

Settings are loaded in eleven stages: both files are read and parsed, what they were merged into is decoded, four
variables are taken, and the result is checked twice. `Sources.Fails` says for each stage on its own when it fails and
with which error, from what it reads itself and what earlier stages made of what they read; a stage to which an earlier
one leaves nothing passes. Opening a file may also not come back.

- `load_of_passes`, `load_of_firstFails`, `load_of_firstWaits`: the first stage that does not pass decides.
- `load_done_iff`, `load_failed_iff`, `load_waits_iff`: and nothing else does.
-/
import BlockProbe.Proofs.Files.Access
import BlockProbe.Proofs.Settings.Layers
import BlockProbe.Proofs.Settings.Variables

namespace BlockProbe.Settings

open BlockProbe.Files
open BlockProbe.Toml (Table)

/-- the configuration files, the lower layer first -/
inductive ConfigFile where
  | operator
  | project
deriving DecidableEq, Repr

/-- what is checked of loaded settings -/
inductive Rule where
  | interval
  | fileMode
deriving DecidableEq, Repr

/-- the stages of loading -/
inductive LoadStage where
  | read (file : ConfigFile)
  | parse (file : ConfigFile)
  | decode
  | override (which : Variable)
  | check (rule : Rule)
deriving DecidableEq, Repr

namespace LoadStage

/-- all stages, in the order they are taken -/
def all : List LoadStage := [
  .read .operator, .parse .operator, .read .project, .parse .project, .decode,
  .override .interval, .override .verify, .override .sync, .override .level, .check .interval, .check .fileMode]

/-- the stages taken before one -/
def earlier (stage : LoadStage) : List LoadStage := all.takeWhile (· ≠ stage)

theorem mem_all (stage : LoadStage) : stage ∈ all := by
  cases stage with
  | read file => cases file <;> decide
  | parse file => cases file <;> decide
  | decode => decide
  | override which => cases which <;> decide
  | check rule => cases rule <;> decide

theorem read_before_parse (file : ConfigFile) : .read file ∈ (parse file).earlier := by
  cases file <;> decide

theorem read_before_decode (file : ConfigFile) : .read file ∈ decode.earlier := by
  cases file <;> decide

theorem parse_before_decode (file : ConfigFile) : .parse file ∈ decode.earlier := by
  cases file <;> decide

theorem decode_before_override (which : Variable) : .decode ∈ (override which).earlier := by
  cases which <;> decide

theorem override_before_override {before which : Variable} (h : before ∈ which.earlier) :
    .override before ∈ (override which).earlier := by
  revert h
  cases which <;> cases before <;> decide

theorem variable_of_before {read which : Variable} (h : .override read ∈ (override which).earlier) :
    read ∈ which.earlier := by
  revert h
  cases which <;> cases read <;> decide

theorem override_before_check (which : Variable) (rule : Rule) : .override which ∈ (check rule).earlier := by
  cases which <;> cases rule <;> decide

theorem decode_before_check (rule : Rule) : .decode ∈ (check rule).earlier := by
  cases rule <;> decide

end LoadStage

/-- what settings are loaded from -/
structure Sources where
  tree : Tree
  /-- the working directory -/
  start : Location
  home : Option String
  environment : Environment

namespace Sources

/-- the settings of a run from these sources -/
def load (sources : Sources) : Attempt LoadError Settings :=
  Settings.load sources.tree sources.start sources.home sources.environment

/-- where a file is looked for, if anywhere -/
def path? (sources : Sources) : ConfigFile → Option String
  | .operator => sources.home.map globalPath
  | .project => some projectPath

/-- the text of a file, none where there is no such file -/
def text (sources : Sources) (file : ConfigFile) : Attempt Fault (Option String) :=
  match sources.path? file with
  | some path =>
    if sources.tree.hasPath sources.start path then
      (sources.tree.readText sources.start path).bind fun text => .done (some text)
    else .done none
  | none => .done none

/-- the table of a file that could be read, none where there is no such file -/
def table? (sources : Sources) (file : ConfigFile) : Option (Option Table) :=
  match sources.text file with
  | .done (some text) => (parse text).toOption.map some
  | .done none => some none
  | _ => none

/-- the settings that the files give, if they can be read, parsed and decoded -/
def decoded? (sources : Sources) : Option Settings := do
  let lower ← sources.table? .operator
  let upper ← sources.table? .project
  (ofLayers [lower, upper]).toOption

/-- the interval in force, if there is one: the variable's where it is set, else the files' -/
def interval? (sources : Sources) : Option UInt64 :=
  match sources.environment "NVPROBE_HEARTBEAT_SECS" with
  | some text => (readInterval text).toOption
  | none => sources.decoded?.map (·.heartbeat.intervalSecs)

/-- a stage fails, with this error -/
def Fails (sources : Sources) : LoadStage → LoadError → Prop
  | .read file, error => ∃ fault, sources.text file = .failed fault ∧ error = .unreadable fault
  | .parse file, error => ∃ text, sources.text file = .done (some text) ∧ Settings.parse text = .error error
  | .decode, error => ∃ lower upper, sources.table? .operator = some lower ∧ sources.table? .project = some upper ∧
      ofLayers [lower, upper] = .error error
  | .override which, error => ∃ reason, which.Refused sources.environment reason ∧ error = .invalid reason
  | .check .interval, error => sources.interval? = some 0 ∧ error = .invalid (.unusable .zeroInterval)
  | .check .fileMode, error => ∃ settings, sources.decoded? = some settings ∧
      greatestFileMode < settings.probe.fileMode ∧ error = .invalid (.unusable (.fileMode settings.probe.fileMode))

/-- a stage does not come back -/
def Waits (sources : Sources) : LoadStage → Prop
  | .read file => sources.text file = .waits
  | _ => False

/-- a stage neither fails nor stays away -/
def Passes (sources : Sources) (stage : LoadStage) : Prop :=
  (∀ error, ¬ sources.Fails stage error) ∧ ¬ sources.Waits stage

/-- a stage fails, and all before it pass -/
def FirstFails (sources : Sources) (stage : LoadStage) (error : LoadError) : Prop :=
  sources.Fails stage error ∧ ∀ before ∈ stage.earlier, sources.Passes before

/-- a stage does not come back, and all before it pass -/
def FirstWaits (sources : Sources) (stage : LoadStage) : Prop :=
  sources.Waits stage ∧ ∀ before ∈ stage.earlier, sources.Passes before

/-! ## Files -/

variable {sources : Sources} {file : ConfigFile} {stage : LoadStage} {error : LoadError}

/-- the table of a file, none where there is no such file, or why there is no table -/
def layer (sources : Sources) (file : ConfigFile) : Attempt LoadError (Option Table) :=
  match sources.path? file with
  | some path => readLayer sources.tree sources.start path
  | none => .done none

theorem layer_eq (sources : Sources) (file : ConfigFile) :
    sources.layer file =
      match sources.text file with
      | .done (some text) => .ofExcept ((Settings.parse text).map some)
      | .done none => .done none
      | .failed fault => .failed (.unreadable fault)
      | .waits => .waits := by
  unfold layer text
  cases sources.path? file with
  | none => rfl
  | some path =>
    dsimp only
    unfold readLayer
    split_ifs with hpath
    · cases sources.tree.readText sources.start path with
      | done text =>
        show (Attempt.ofExcept (Settings.parse text) >>= fun table => .done (some table)) =
          Attempt.ofExcept ((Settings.parse text).map some)
        cases Settings.parse text <;> rfl
      | failed fault => rfl
      | waits => rfl
    · rfl

theorem load_eq (sources : Sources) :
    sources.load = (sources.layer .operator).bind fun lower => (sources.layer .project).bind fun upper =>
      .ofExcept (ofLayers [lower, upper] >>= finish sources.environment) := by
  have hproject : sources.layer .project = readLayer sources.tree sources.start projectPath := rfl
  have hfinish : ∀ lower upper, (Attempt.ofExcept (ofLayers [lower, upper]) >>= fun settings =>
      Attempt.ofExcept (finish sources.environment settings)) =
        .ofExcept (ofLayers [lower, upper] >>= finish sources.environment) :=
    fun _ _ => Attempt.ofExcept_bind _ _
  simp only [← hfinish]
  unfold load Settings.load loadFiles layer path?
  cases sources.home with
  | none =>
    dsimp only [Option.map_none, Attempt.bind]
    cases readLayer sources.tree sources.start projectPath <;> rfl
  | some home =>
    dsimp only [Option.map_some]
    cases readLayer sources.tree sources.start (globalPath home) with
    | done lower => cases readLayer sources.tree sources.start projectPath <;> rfl
    | _ => rfl

theorem layer_of_passes (hread : sources.Passes (.read file)) (hparse : sources.Passes (.parse file)) :
    ∃ table, sources.table? file = some table ∧ sources.layer file = .done table := by
  rw [layer_eq]
  unfold table?
  cases htext : sources.text file with
  | failed fault => exact (hread.1 _ ⟨fault, htext, rfl⟩).elim
  | waits => exact (hread.2 htext).elim
  | done text =>
    cases text with
    | none => exact ⟨none, rfl, rfl⟩
    | some text =>
      cases htable : Settings.parse text with
      | error error => exact (hparse.1 error ⟨text, htext, htable⟩).elim
      | ok table =>
        refine ⟨some table, ?_, ?_⟩
        · simp only [htable]; rfl
        · simp only [htable]; rfl

theorem layer_of_read_fails (h : sources.Fails (.read file) error) : sources.layer file = .failed error := by
  obtain ⟨fault, htext, rfl⟩ := h
  rw [layer_eq, htext]

theorem layer_of_parse_fails (h : sources.Fails (.parse file) error) : sources.layer file = .failed error := by
  obtain ⟨text, htext, hparse⟩ := h
  rw [layer_eq, htext]
  simp only [hparse]
  rfl

theorem layer_of_waits (h : sources.Waits (.read file)) : sources.layer file = .waits := by
  rw [layer_eq, show sources.text file = .waits from h]

/-- without the operator's file there is no project's -/
theorem load_of_operator {lower : Option Table} (h : sources.layer .operator = .done lower) :
    sources.load = (sources.layer .project).bind fun upper =>
      .ofExcept (ofLayers [lower, upper] >>= finish sources.environment) := by
  rw [load_eq, h]
  rfl

/-- files that were read and parsed leave the rest to their tables -/
theorem load_of_tables {lower upper : Option Table} (hlower : sources.layer .operator = .done lower)
    (hupper : sources.layer .project = .done upper) :
    sources.load = .ofExcept (ofLayers [lower, upper] >>= finish sources.environment) := by
  rw [load_of_operator hlower, hupper]
  rfl

/-! ## Settings -/

/-- a variable's stage passes if its text is accepted -/
theorem accepted_of_passes {which : Variable} (h : sources.Passes (.override which)) :
    which.Accepted sources.environment := by
  by_contra hnot
  obtain ⟨reason, hrefused⟩ := Variable.refused_of_not_accepted hnot
  exact h.1 _ ⟨reason, hrefused, rfl⟩

/-- once the files are decoded, the variables and the checks are left -/
theorem decoded_of_passes (hread : ∀ file, sources.Passes (.read file)) (hparse : ∀ file, sources.Passes (.parse file))
    (hdecode : sources.Passes .decode) :
    ∃ settings, sources.decoded? = some settings ∧ sources.load = .ofExcept (finish sources.environment settings) := by
  obtain ⟨lower, hlower, hlowerLayer⟩ := layer_of_passes (hread .operator) (hparse .operator)
  obtain ⟨upper, hupper, hupperLayer⟩ := layer_of_passes (hread .project) (hparse .project)
  cases hlayers : ofLayers [lower, upper] with
  | error error => exact (hdecode.1 error ⟨lower, upper, hlower, hupper, hlayers⟩).elim
  | ok settings =>
    refine ⟨settings, ?_, ?_⟩
    · unfold decoded?
      rw [hlower, hupper]
      show (ofLayers [lower, upper]).toOption = some settings
      rw [hlayers]
      rfl
    · rw [load_of_tables hlowerLayer hupperLayer, hlayers]
      rfl

theorem decoded_of_before (h : ∀ before ∈ stage.earlier, sources.Passes before) (hdecode : .decode ∈ stage.earlier) :
    ∃ settings, sources.decoded? = some settings ∧ sources.load = .ofExcept (finish sources.environment settings) :=
  decoded_of_passes (fun file => h _ (mem_before_trans (LoadStage.read_before_decode file) hdecode))
    (fun file => h _ (mem_before_trans (LoadStage.parse_before_decode file) hdecode)) (h _ hdecode)

/-- variables that are accepted leave the interval in force and the mode of the files to be checked -/
theorem finish_of_accepted {settings : Settings} (hdecoded : sources.decoded? = some settings)
    (haccepted : ∀ which : Variable, which.Accepted sources.environment) :
    ∃ after : Settings, sources.interval? = some after.heartbeat.intervalSecs ∧
      after.probe.fileMode = settings.probe.fileMode ∧
      finish sources.environment settings =
        (after.check.mapError fun reason => .invalid (.unusable reason)).map fun _ => after := by
  obtain ⟨after, happly, htaken⟩ := overrides_all_accepted haccepted settings
  refine ⟨after, ?_, htaken.unnamed.1.symm, ?_⟩
  · unfold interval?
    cases hset : sources.environment "NVPROBE_HEARTBEAT_SECS" with
    | none =>
      have hkept : settings.heartbeat.intervalSecs = after.heartbeat.intervalSecs := htaken.kept .interval (.inr hset)
      rw [hdecoded, ← hkept]
      rfl
    | some text => exact toOption_eq_some.2 (htaken.shown .interval (Variable.mem_all _) text hset)
  · unfold finish
    rw [happly]
    dsimp only
    cases after.check <;> rfl

/-! ## Loading -/

/-- **Where every stage passes** settings are loaded, with the interval in force. -/
theorem load_of_passes (h : ∀ stage, sources.Passes stage) :
    ∃ settings, sources.load = .done settings ∧ sources.interval? = some settings.heartbeat.intervalSecs := by
  obtain ⟨settings, hdecoded, hload⟩ := decoded_of_passes (fun _ => h _) (fun _ => h _) (h .decode)
  obtain ⟨after, hinterval, hmode, hfinish⟩ :=
    finish_of_accepted hdecoded fun which => accepted_of_passes (h (.override which))
  have hnonzero : after.heartbeat.intervalSecs ≠ 0 := by
    intro hzero
    exact (h (.check .interval)).1 _ ⟨hzero ▸ hinterval, rfl⟩
  have hfits : ¬ after.probe.fileMode > greatestFileMode := by
    intro hexceeds
    exact (h (.check .fileMode)).1 _ ⟨settings, hdecoded, hmode ▸ hexceeds, rfl⟩
  have hcheck : after.check = .ok () := by
    unfold check
    rw [if_neg hnonzero, if_neg hfits]
  refine ⟨after, ?_, hinterval⟩
  rw [hload, hfinish, hcheck]
  rfl

/-- **The first stage that fails decides the error.** -/
theorem load_of_firstFails (h : sources.FirstFails stage error) : sources.load = .failed error := by
  obtain ⟨hfails, hbefore⟩ := h
  cases stage with
  | read file =>
    have hlayer := layer_of_read_fails hfails
    cases file with
    | operator => rw [load_eq, hlayer]; rfl
    | project =>
      obtain ⟨lower, -, hlower⟩ :=
        layer_of_passes (hbefore (.read .operator) (by decide)) (hbefore (.parse .operator) (by decide))
      rw [load_of_operator hlower, hlayer]
      rfl
  | parse file =>
    have hlayer := layer_of_parse_fails hfails
    cases file with
    | operator => rw [load_eq, hlayer]; rfl
    | project =>
      obtain ⟨lower, -, hlower⟩ :=
        layer_of_passes (hbefore (.read .operator) (by decide)) (hbefore (.parse .operator) (by decide))
      rw [load_of_operator hlower, hlayer]
      rfl
  | decode =>
    obtain ⟨lower, upper, hlower, hupper, hlayers⟩ := hfails
    have hlayer : ∀ file, ∃ table, sources.table? file = some table ∧ sources.layer file = .done table := fun file =>
      layer_of_passes (hbefore _ (LoadStage.read_before_decode file)) (hbefore _ (LoadStage.parse_before_decode file))
    obtain ⟨_, hsame, hlowerLayer⟩ := hlayer .operator
    cases hlower.symm.trans hsame
    obtain ⟨_, hsame, hupperLayer⟩ := hlayer .project
    cases hupper.symm.trans hsame
    rw [load_of_tables hlowerLayer hupperLayer, hlayers]
    rfl
  | override which =>
    obtain ⟨settings, -, hload⟩ := decoded_of_before hbefore (LoadStage.decode_before_override which)
    obtain ⟨reason, hrefused, rfl⟩ := hfails
    have hfirst : which.FirstRefused sources.environment reason :=
      ⟨hrefused, fun _ hmem => accepted_of_passes (hbefore _ (LoadStage.override_before_override hmem))⟩
    obtain ⟨after, happly, -⟩ := overrides_first_refused hfirst settings
    rw [hload]
    unfold finish
    rw [happly]
    rfl
  | check rule =>
    obtain ⟨settings, hdecoded, hload⟩ := decoded_of_before hbefore (LoadStage.decode_before_check rule)
    obtain ⟨after, hinterval, hmode, hfinish⟩ := finish_of_accepted hdecoded fun which =>
      accepted_of_passes (hbefore _ (LoadStage.override_before_check which rule))
    cases rule with
    | interval =>
      obtain ⟨hzero, rfl⟩ := hfails
      have hcheck : after.check = .error .zeroInterval :=
        if_pos (Option.some.inj (hinterval.symm.trans hzero))
      rw [hload, hfinish, hcheck]
      rfl
    | fileMode =>
      obtain ⟨other, hother, hexceeds, rfl⟩ := hfails
      cases hdecoded.symm.trans hother
      have hnonzero : after.heartbeat.intervalSecs ≠ 0 := by
        intro hzero
        exact (hbefore (.check .interval) (by decide)).1 _ ⟨hzero ▸ hinterval, rfl⟩
      have hcheck : after.check = .error (.fileMode settings.probe.fileMode) := by
        unfold check
        rw [if_neg hnonzero, hmode, if_pos hexceeds]
      rw [hload, hfinish, hcheck]
      rfl

/-- only reading does not come back, and then loading does not -/
theorem load_of_firstWaits (h : sources.FirstWaits stage) : sources.load = .waits := by
  obtain ⟨hwaits, hbefore⟩ := h
  cases stage with
  | read file =>
    have hlayer := layer_of_waits hwaits
    cases file with
    | operator => rw [load_eq, hlayer]; rfl
    | project =>
      obtain ⟨lower, -, hlower⟩ :=
        layer_of_passes (hbefore (.read .operator) (by decide)) (hbefore (.parse .operator) (by decide))
      rw [load_of_operator hlower, hlayer]
      rfl
  | _ => exact hwaits.elim

/-- every stage passes, or one is the first that does not -/
theorem passes_or_first (sources : Sources) :
    (∀ stage, sources.Passes stage) ∨ (∃ stage error, sources.FirstFails stage error) ∨
      ∃ stage, sources.FirstWaits stage := by
  rcases all_or_first sources.Passes LoadStage.all with hall | ⟨stage, -, hnot, hbefore⟩
  · exact .inl fun stage => hall stage stage.mem_all
  · by_cases hwaits : sources.Waits stage
    · exact .inr (.inr ⟨stage, hwaits, hbefore⟩)
    · have hfails : ∃ error, sources.Fails stage error := by
        by_contra hnone
        exact hnot ⟨not_exists.1 hnone, hwaits⟩
      obtain ⟨error, hfails⟩ := hfails
      exact .inr (.inl ⟨stage, error, hfails, hbefore⟩)

/-- loading ends as its first stage that does not pass, or with settings where there is none -/
theorem load_cases (sources : Sources) :
    (∃ settings, sources.load = .done settings ∧ ∀ stage, sources.Passes stage) ∨
    (∃ stage error, sources.load = .failed error ∧ sources.FirstFails stage error) ∨
      ∃ stage, sources.load = .waits ∧ sources.FirstWaits stage := by
  rcases passes_or_first sources with hall | ⟨stage, error, hfirst⟩ | ⟨stage, hfirst⟩
  · obtain ⟨settings, hload, -⟩ := load_of_passes hall
    exact .inl ⟨settings, hload, hall⟩
  · exact .inr (.inl ⟨stage, error, load_of_firstFails hfirst, hfirst⟩)
  · exact .inr (.inr ⟨stage, load_of_firstWaits hfirst, hfirst⟩)

theorem load_done_iff : (∃ settings, sources.load = .done settings) ↔ ∀ stage, sources.Passes stage := by
  refine ⟨?_, fun hall => (load_of_passes hall).imp fun _ hload => hload.1⟩
  rintro ⟨settings, hload⟩
  rcases load_cases sources with ⟨-, -, hall⟩ | ⟨_, _, hfailed, -⟩ | ⟨_, hwaits, -⟩
  · exact hall
  · cases hload.symm.trans hfailed
  · cases hload.symm.trans hwaits

theorem load_failed_iff : sources.load = .failed error ↔ ∃ stage, sources.FirstFails stage error := by
  refine ⟨fun hload => ?_, fun ⟨_, hfirst⟩ => load_of_firstFails hfirst⟩
  rcases load_cases sources with ⟨_, hdone, -⟩ | ⟨stage, _, hfailed, hfirst⟩ | ⟨_, hwaits, -⟩
  · cases hload.symm.trans hdone
  · cases hload.symm.trans hfailed
    exact ⟨stage, hfirst⟩
  · cases hload.symm.trans hwaits

theorem load_waits_iff : sources.load = .waits ↔ ∃ stage, sources.FirstWaits stage := by
  refine ⟨fun hload => ?_, fun ⟨_, hfirst⟩ => load_of_firstWaits hfirst⟩
  rcases load_cases sources with ⟨_, hdone, -⟩ | ⟨_, _, hfailed, -⟩ | ⟨stage, -, hfirst⟩
  · cases hload.symm.trans hdone
  · cases hload.symm.trans hfailed
  · exact ⟨stage, hfirst⟩

/-! ## What is at a path -/

theorem text_of_no_path (h : sources.path? file = none) : sources.text file = .done none := by
  unfold text
  rw [h]

variable {path : String} {location : Location}

theorem text_of_missing (hpath : sources.path? file = some path)
    (hmissing : sources.tree.hasPath sources.start path = false) : sources.text file = .done none := by
  unfold text
  rw [hpath]
  dsimp only
  rw [hmissing]
  rfl

/-- a path that leads to something is opened and read -/
theorem text_of_node (hpath : sources.path? file = some path) {node : Node}
    (hnode : resolve sources.tree .use sources.start path = .ok (.existing location node)) :
    sources.text file = (sources.tree.readText sources.start path).bind fun text => .done (some text) := by
  have hthere : sources.tree.hasPath sources.start path = true := Tree.hasPath_iff.2 ⟨location, node, hnode⟩
  unfold text
  rw [hpath]
  exact if_pos hthere

/-- what the process may not open is not read -/
theorem text_of_closed (hpath : sources.path? file = some path) {node : Node}
    (hnode : resolve sources.tree .use sources.start path = .ok (.existing location node))
    (hopen : sources.tree.caller.mayOpen .read location node = false) :
    sources.text file = .failed .accessDenied := by
  rw [text_of_node hpath hnode]
  unfold Tree.readText Tree.openForReading
  rw [hnode]
  simp only [hopen]
  rfl

theorem text_of_directory (hpath : sources.path? file = some path)
    (hnode : resolve sources.tree .use sources.start path = .ok (.existing location .directory))
    (hopen : sources.tree.caller.mayOpen .read location .directory = true) :
    sources.text file = .failed .isDirectory := by
  rw [text_of_node hpath hnode]
  unfold Tree.readText Tree.openForReading
  rw [hnode]
  simp only [hopen]
  rfl

theorem text_of_bytes (hpath : sources.path? file = some path) {mode : UInt32} {bytes : List UInt8}
    (hnode : resolve sources.tree .use sources.start path = .ok (.existing location (.file mode bytes)))
    (hopen : sources.tree.caller.mayOpen .read location (.file mode bytes) = true) :
    sources.text file = .ofExcept ((Text.decode? bytes).elim (.error .notUtf8) fun text => .ok (some text)) := by
  rw [text_of_node hpath hnode]
  unfold Tree.readText
  rw [Tree.openForReading_of_file hnode, if_pos hopen]
  cases hdecode : Text.decode? bytes <;> simp [hdecode, Attempt.ofExcept, Attempt.bind]

/-- a file that is not there is neither read nor parsed -/
theorem passes_of_text_none (h : sources.text file = .done none) :
    sources.Passes (.read file) ∧ sources.Passes (.parse file) ∧ sources.table? file = some none := by
  refine ⟨⟨?_, ?_⟩, ⟨?_, id⟩, ?_⟩
  · rintro error ⟨fault, hfailed, -⟩
    rw [h] at hfailed
    cases hfailed
  · intro hwaits
    cases h.symm.trans hwaits
  · rintro error ⟨text, htext, -⟩
    rw [h] at htext
    cases htext
  · unfold table?
    rw [h]

/-- where one file comes or changes that a path does not name, its text is the same -/
theorem text_sameBut {tree : Tree} (hsame : sources.tree.SameBut location tree)
    (hnames : ∀ path, sources.path? file = some path → ¬ Names sources.tree sources.start path location) :
    sources.text file = { sources with tree }.text file := by
  show _ = match sources.path? file with
    | some path => _
    | none => _
  unfold text
  cases hpath : sources.path? file with
  | none => rfl
  | some path =>
    dsimp only
    rw [← Tree.hasPath_sameBut hsame (hnames path hpath)]
    split_ifs with hthere
    · rw [Tree.readText_sameBut hsame (hnames path hpath) hthere]
    · rfl

end Sources

end BlockProbe.Settings
