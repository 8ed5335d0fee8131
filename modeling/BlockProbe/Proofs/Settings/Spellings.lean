/-
How a setting is spelled, in a variable and in a file.

A variable takes any text that spells a value of its setting and refuses all others. What spells a value is said here
without reading anything; a file says the same value in its own way.

- `variable_reads`: what each of the four variables takes, and as what.
- `oneSetting_makes`: what a file with one setting comes to.
- `interval_given`, `level_given`, `verify_given`, `sync_given`: what files with a value for a setting come to.
-/
import BlockProbe.Proofs.Decimal.Natural
import BlockProbe.Proofs.Settings.Complete
import BlockProbe.Proofs.Settings.Variables
import BlockProbe.Proofs.Text.Blank

namespace BlockProbe.Settings

open BlockProbe.Toml

/-! ## What spells a value -/

/-- a numeral with white space around it -/
def SpellsInterval (text : String) (secs : UInt64) : Prop :=
  ∃ inner, Text.Strips text inner ∧ Decimal.Numeral inner secs.toNat

/-- the words for a truth value -/
def booleanWords : Bool → List String
  | true => ["1", "true", "yes", "on"]
  | false => ["0", "false", "no", "off"]

/-- a word for a truth value in letters of either case, with white space around it -/
def SpellsBoolean (text : String) (value : Bool) : Prop :=
  ∃ inner, Text.Strips text inner ∧ inner.toLower ∈ booleanWords value

/-- the name of a level in letters of either case, or `warning` -/
def SpellsLevel (text : String) (level : Level) : Prop :=
  text.toLower = level.name ∨ (text.toLower = "warning" ∧ level = .warn)

variable {text : String}

theorem strips_trimmed_iff {P : String → Prop} :
    (∃ inner, Text.Strips text inner ∧ P inner) ↔ P (Text.trimmed text) := by
  constructor
  · rintro ⟨inner, hstrips, hinner⟩
    rwa [Text.trimmed_iff.2 hstrips]
  · intro h
    exact ⟨Text.trimmed text, Text.strips_trimmed text, h⟩

/-- a numeral has no white space in it -/
theorem strips_numeral {n : Nat} (h : Decimal.Numeral text n) : Text.Strips text text := by
  obtain ⟨digits, hdigits, htext⟩ := h
  have hdigit : ∀ c ∈ digits, c.toNat ∉ Text.whiteSpace := by
    intro c hc
    have hrange : '0' ≤ c ∧ c ≤ '9' := by simpa [Char.isDigit, Char.le_def] using hdigits.all c hc
    have hlow : 48 ≤ c.toNat := hrange.1
    have hhigh : c.toNat ≤ 57 := hrange.2
    simp only [Text.whiteSpace, List.mem_cons, List.not_mem_nil, or_false]
    omega
  refine Text.strips_self fun c hc => ?_
  rcases htext with htext | htext <;> rw [htext] at hc
  · exact hdigit c hc
  · rcases List.mem_cons.1 hc with rfl | hc
    · decide
    · exact hdigit c hc

/-- what is a number as it stands spells the same number in a variable -/
theorem spellsInterval_of_numeral {secs : UInt64} (h : Decimal.Numeral text secs.toNat) : SpellsInterval text secs :=
  ⟨text, strips_numeral h, h⟩

theorem readInterval_eq_ok {secs : UInt64} : readInterval text = .ok secs ↔ SpellsInterval text secs := by
  unfold readInterval SpellsInterval
  rw [strips_trimmed_iff, Decimal.readUnsigned_eq_ok]

theorem parseBoolean_eq_ok {name : String} {value : Bool} :
    parseBoolean name text = .ok value ↔ SpellsBoolean text value := by
  unfold SpellsBoolean
  rw [strips_trimmed_iff]
  unfold parseBoolean
  split
  all_goals cases value <;> simp_all [booleanWords]

theorem parseBoolean_congr {name other : String}
    (h : (Text.trimmed text).toLower = (Text.trimmed other).toLower) :
    parseBoolean name text = parseBoolean name other := by
  unfold parseBoolean
  rw [h]

/-- the names of the truth values in a file spell them -/
theorem spellsBoolean_toString (value : Bool) : SpellsBoolean (toString value) value := by
  have hbare : Text.trimmed (toString value) = toString value := by cases value <;> cbv
  have hlower : (toString value).toLower = toString value := by cases value <;> cbv
  refine ⟨toString value, Text.trimmed_iff.1 hbare, ?_⟩
  rw [hlower]
  cases value <;> simp [booleanWords, toString]

theorem parseLevel_eq_ok {level : Level} : Level.parse text = .ok level ↔ SpellsLevel text level := by
  unfold Level.parse SpellsLevel
  split
  all_goals cases level <;> simp_all [Level.name]

/-- a level's name spells it -/
theorem spellsLevel_name (level : Level) : SpellsLevel level.name level := by
  refine .inl ?_
  cases level <;> cbv

/-! ## One variable alone -/

/-- an environment with one variable -/
def only (name text : String) : Environment := fun other => if other = name then some text else none

/-- A variable alone takes the texts that spell a value, as that value, and refuses the others, whatever the settings
are. -/
structure VariableReads {β : Type} (which : Variable) (store : Settings → β → Settings) (spells : String → β → Prop) :
    Prop where
  accepted (text : String) (value : β) (before : Settings) : spells text value →
    applyOverrides (only which.name text) before = (store before value, .ok ())
  refused (text : String) (before : Settings) : (∀ value, ¬ spells text value) →
    applyOverrides (only which.name text) before = (before, .error (which.refusal text))

theorem overrides_only_accepted {which : Variable} {before after : Settings}
    (h : which.override.apply text before = .ok after) :
    applyOverrides (only which.name text) before = (after, .ok ()) := by
  cases which <;> simp_all [applyOverrides, overrides, applyEach, only, Variable.name, Variable.override,
    intervalOverride, verifyOverride, syncOverride, levelOverride]

theorem overrides_only_refused {which : Variable} {before : Settings} {reason : Invalid}
    (h : which.override.apply text before = .error reason) :
    applyOverrides (only which.name text) before = (before, .error reason) := by
  cases which <;> simp_all [applyOverrides, overrides, applyEach, only, Variable.name, Variable.override,
    intervalOverride, verifyOverride, syncOverride, levelOverride]

/-- nothing of a variable's text matters but what is made of it -/
theorem overrides_only_congr {which : Variable} {other : String} {before : Settings}
    (h : which.override.apply text before = which.override.apply other before) :
    applyOverrides (only which.name text) before = applyOverrides (only which.name other) before := by
  cases happly : which.override.apply other before with
  | error reason => rw [overrides_only_refused (h.trans happly), overrides_only_refused happly]
  | ok after => rw [overrides_only_accepted (h.trans happly), overrides_only_accepted happly]

/-- a variable that stores what its text reads as -/
theorem Variable.reads {β ε : Type} {which : Variable} {read : String → Except ε β} {store : Settings → β → Settings}
    {spells : String → β → Prop} (haccepts : ∀ text, which.Accepts text → ∃ value, read text = .ok value)
    (happly : ∀ text value before, read text = .ok value → which.override.apply text before = .ok (store before value))
    (hread : ∀ text value, read text = .ok value ↔ spells text value) : VariableReads which store spells where
  accepted text value before h := overrides_only_accepted (happly text value before ((hread text value).2 h))
  refused text before h := by
    refine overrides_only_refused (apply_refused (fun haccepted => ?_) before)
    obtain ⟨value, hvalue⟩ := haccepts text haccepted
    exact h value ((hread text value).1 hvalue)

theorem interval_reads :
    VariableReads .interval (fun settings secs => { settings with heartbeat.intervalSecs := secs }) SpellsInterval := by
  refine Variable.reads (fun _ => id) (fun text secs before h => ?_) fun _ _ => readInterval_eq_ok
  unfold readInterval at h
  simp only [Variable.override, intervalOverride, h]

theorem verify_reads :
    VariableReads .verify (fun settings verify => { settings with probe.verify := verify }) SpellsBoolean :=
  Variable.reads (fun _ => id) (fun _ verify _ h => map_eq_ok.2 ⟨verify, h, rfl⟩) fun _ _ => parseBoolean_eq_ok

theorem sync_reads :
    VariableReads .sync (fun settings sync => { settings with probe.sync := sync }) SpellsBoolean :=
  Variable.reads (fun _ => id) (fun _ sync _ h => map_eq_ok.2 ⟨sync, h, rfl⟩) fun _ _ => parseBoolean_eq_ok

theorem level_reads :
    VariableReads .level (fun settings level => { settings with log.level := level }) SpellsLevel := by
  refine Variable.reads (fun _ => id) (fun text level before h => ?_) fun _ _ => parseLevel_eq_ok
  simp only [Variable.override, levelOverride, h]

/-! ## Files -/

/-- a configuration text with one setting -/
def oneSetting (name key value : String) : String := "[" ++ name ++ "]\n" ++ key ++ " = " ++ value ++ "\n"

/-- the project's file holds this text, there is no other, and these settings are what it comes to -/
def FileMakes (text : String) (settings : Settings) : Prop :=
  ∃ table, parse text = .ok table ∧ ofLayers [none, some table] = .ok settings

/-- these settings come of the files, and the files give a setting this value in the end -/
structure FilesGive (layout : Layout) (key : String) (given : Value) (settings : Settings) : Prop where
  made : ∃ lower upper, OrderedTable (tableOf lower) ∧ OrderedTable (tableOf upper) ∧
    layout.lookUp key (merged lower upper) = some given ∧ ofLayers [lower, upper] = .ok settings

section File

variable {name key : String} {printed : List Char} {value : Value}

theorem oneSetting_toList (name key value : String) :
    (oneSetting name key value).toList = printedHeading name ++ printedLine key value.toList := by
  simp [oneSetting, printedHeading, printedLine]

/-- no bare key is the one that makes a table stand for a moment -/
theorem not_momentKey (h : IsKey key) : (key == momentKey) = false := by
  rw [beq_eq_false_iff_ne]
  rintro rfl
  exact absurd h (by decide)

theorem assemble_oneSetting (hkey : IsKey key) (hvalue : value.settled = some value) :
    assemble [.header [name], .assignment [key] value] = some [(name, .table [(key, value)])] := by
  simp [assemble, Document.add, Document.empty, within, assign, define, openTable, Keyed.find?, Keyed.set, Keyed.put,
    entriesToTable, keyedToValue, Entry.toValue, settledEntries, settledEntry, Value.settled, standsForMoment,
    not_momentKey hkey, hvalue]

theorem readTable_oneSetting (hname : IsKey name) (hkey : IsKey key) (hspells : Spells printed value)
    (hvalue : value.settled = some value) :
    readTable (oneSetting name key (String.ofList printed)) = some [(name, .table [(key, value)])] := by
  refine readTable_of_statements ?_ ?_ (assemble_oneSetting hkey hvalue)
  · rw [oneSetting_toList]
    exact fun h => absurd (Option.some.inj h) (by decide)
  · have hlast : printedLine key printed = printedLine key printed ++ [] := (List.append_nil _).symm
    obtain ⟨allowance, hallowance⟩ : ∃ allowance,
        (printedHeading name ++ printedLine key printed).length + 1 = allowance + 3 :=
      ⟨(printedHeading name ++ printedLine key printed).length - 2, by
        simp only [printedHeading, printedLine, List.length_append, List.length_cons, List.length_nil]
        omega⟩
    rw [oneSetting_toList, String.toList_ofList, hallowance, readStatements_heading hname, hlast,
      readStatements_setting hkey _ hspells, readStatements_nil]
    rfl

/-- a file with one setting comes to what its table decodes to -/
theorem oneSetting_makes (hname : IsKey name) (hkey : IsKey key) (hspells : Spells printed value)
    (hvalue : value.settled = some value) {settings : Settings}
    (hdecode : ofLayers [none, some [(name, .table [(key, value)])]] = .ok settings) :
    FileMakes (oneSetting name key (String.ofList printed)) settings :=
  ⟨_, by rw [parse, readTable_oneSetting hname hkey hspells hvalue], hdecode⟩

end File

/-- the decimal of a number that an integer can hold gives it as the interval -/
theorem interval_file {n : Nat} (h : n < 2 ^ 63) :
    FileMakes (oneSetting "heartbeat" "interval_secs" (toString n)) { heartbeat.intervalSecs := UInt64.ofNat n } := by
  have hn : (UInt64.ofNat n).toNat = n := UInt64.toNat_ofNat_of_lt' (Nat.lt_trans h (by decide))
  have hread : asUnsigned64 (asInteger (UInt64.ofNat n).toNat) = .ok (UInt64.ofNat n) :=
    asUnsigned64_asInteger (hn.symm ▸ h)
  rw [hn] at hread
  rw [Nat.toString_eq_ofList_toDigits]
  refine oneSetting_makes (by decide) (by decide) (spells_number h) rfl ?_
  show ofLayers [none, some [("heartbeat", .table [("interval_secs", asInteger n)])]] = _
  simp [ofLayers, overlay, overlayEntry, overlayValue, Keyed.find?, Keyed.put, decode, takeSection, Section.read,
    Section.takeEntry, heartbeatSection, Setting.of, hread]
  rfl

/-- the name of a level gives the level -/
theorem level_file (level : Level) :
    FileMakes (oneSetting "log" "level" ("\"" ++ level.name ++ "\"")) { log.level := level } := by
  have hprinted : "\"" ++ level.name ++ "\"" = String.ofList (enclose '\x22' 1 level.name.toList) := by
    cases level <;> decide
  rw [hprinted]
  refine oneSetting_makes (by decide) (by decide) (spells_level level) rfl ?_
  cases level <;> rfl

theorem verify_file (value : Bool) :
    FileMakes (oneSetting "probe" "verify" (toString value)) { probe.verify := value } := by
  have hprinted : toString value = String.ofList (printedBoolean value) := by cases value <;> decide
  rw [hprinted]
  refine oneSetting_makes (by decide) (by decide) (spells_boolean value) rfl ?_
  cases value <;> rfl

theorem sync_file (value : Bool) :
    FileMakes (oneSetting "probe" "sync" (toString value)) { probe.sync := value } := by
  have hprinted : toString value = String.ofList (printedBoolean value) := by cases value <;> decide
  rw [hprinted]
  refine oneSetting_makes (by decide) (by decide) (spells_boolean value) rfl ?_
  cases value <;> rfl

section Given

variable {given : Value} {settings : Settings}

theorem FilesGive.fieldsGiven {layout : Layout} {key : String} (h : FilesGive layout key given settings) :
    ∃ table, layout.lookUp key table = some given ∧ FieldsGiven table settings := by
  obtain ⟨lower, upper, hlower, hupper, hlookUp, hmade⟩ := h.made
  rw [ofLayers_eq, mapError_eq_ok] at hmade
  exact ⟨merged lower upper, hlookUp, ((decode_eq_ok (merged_ordered hlower hupper)).1 hmade).2⟩

/-- an interval that the files give is the integer they give -/
theorem interval_given (h : FilesGive heartbeatLayout "interval_secs" given settings) :
    StandsForNumber given settings.heartbeat.intervalSecs.toNat := by
  obtain ⟨table, hlookUp, hfields⟩ := h.fieldsGiven
  have hinterval := hfields.interval
  rwa [hlookUp] at hinterval

/-- a level that the files give is the one with exactly the name they give -/
theorem level_given (h : FilesGive logLayout "level" given settings) : StandsForLevel given settings.log.level := by
  obtain ⟨table, hlookUp, hfields⟩ := h.fieldsGiven
  have hlevel := hfields.level
  rwa [hlookUp] at hlevel

theorem verify_given (h : FilesGive probeLayout "verify" given settings) : given = .boolean settings.probe.verify := by
  obtain ⟨table, hlookUp, hfields⟩ := h.fieldsGiven
  have hverify := hfields.verify
  rwa [hlookUp] at hverify

theorem sync_given (h : FilesGive probeLayout "sync" given settings) : given = .boolean settings.probe.sync := by
  obtain ⟨table, hlookUp, hfields⟩ := h.fieldsGiven
  have hsync := hfields.sync
  rwa [hlookUp] at hsync

end Given

end BlockProbe.Settings
