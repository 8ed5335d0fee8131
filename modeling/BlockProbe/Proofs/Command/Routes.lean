/-
The ways to give a setting.

The interval and the level can be given in a file, in a variable and among the arguments, the truth values in a file and
in a variable. Each way reads its text on its own; what one accepts another may refuse, but where two accept a text they
make the same of it.

- `interval_option`, `level_option`: what the two options take with `=`, and as what.
- `routes_agree`: what every way accepts, and that the ways agree.
-/
import BlockProbe.Proofs.Command.Insertion
import BlockProbe.Proofs.Settings.Spellings

namespace BlockProbe.Command

open BlockProbe.Settings
open BlockProbe.Toml (Value)

/-! ## Options -/

/-- has the option its value? -/
def Request.gives (request : Request) : Slot → Bool
  | .interval => request.interval.isSome
  | .level => request.level.isSome

/-- Wherever options are read and this one has no value yet, it takes with `=` the texts that spell a value, as that
value, and refuses the others. -/
structure OptionReads {β : Type} (slot : Slot) (keep : Request → β → Request) (spells : String → β → Prop) : Prop where
  accepted {progress settled : Progress} (text : String) (value : β) : progress.optionsEnded = false →
    settle progress = .ok settled → settled.request.gives slot = false → spells text value →
    take progress (slot.name ++ "=" ++ text) = .ok { settled with request := keep settled.request value }
  refused {progress settled : Progress} (text : String) : progress.optionsEnded = false →
    settle progress = .ok settled → settled.request.gives slot = false → (∀ value, ¬ spells text value) →
    ∃ reason, take progress (slot.name ++ "=" ++ text) = .error (.refused (.invalidValue text slot.shown reason))

variable {progress settled : Progress} {slot : Slot} {text : String}

theorem take_attached (hended : progress.optionsEnded = false) (hsettle : settle progress = .ok settled) :
    take progress (slot.name ++ "=" ++ text) =
      (store settled.request slot text).mapError .refused >>= fun request => .ok { settled with request } := by
  unfold take
  rw [if_neg (by simp [hended]), classify_attached, hsettle]
  rfl

/-- an option that keeps what its text reads as -/
theorem option_reads {β : Type} {keep : Request → β → Request} {spells : String → β → Prop}
    (htakes : ∀ request text value, request.gives slot = false → spells text value →
      store request slot text = .ok (keep request value))
    (hrefuses : ∀ request text, request.gives slot = false → (∀ value, ¬ spells text value) →
      ∃ reason, store request slot text = .error (.invalidValue text slot.shown reason)) :
    OptionReads slot keep spells where
  accepted text value hended hsettle hnone h := by
    rw [take_attached hended hsettle, htakes _ text value hnone h]
    rfl
  refused text hended hsettle hnone h := by
    obtain ⟨reason, hstore⟩ := hrefuses _ text hnone h
    refine ⟨reason, ?_⟩
    rw [take_attached hended hsettle, hstore]
    rfl

theorem gives_start (slot : Slot) : ({} : Request).gives slot = false := by
  cases slot <;> rfl

/-- the only argument -/
theorem OptionReads.parse_alone {β : Type} {keep : Request → β → Request} {spells : String → β → Prop}
    (h : OptionReads slot keep spells) {value : β} (hspells : spells text value) :
    parse [slot.name ++ "=" ++ text] = .ok (keep {} value) := by
  have hsettle : settle {} = .ok {} := settle_of_nothing rfl
  have htake := h.accepted text value rfl hsettle (gives_start slot) hspells
  have hread : [slot.name ++ "=" ++ text].foldlM take {} = .ok { request := keep {} value } := by
    rw [List.foldlM_cons, htake]
    rfl
  rw [parse_of_read hread, settle_of_nothing rfl]
  rfl

theorem OptionReads.parse_alone_refused {β : Type} {keep : Request → β → Request} {spells : String → β → Prop}
    (h : OptionReads slot keep spells) (hspells : ∀ value, ¬ spells text value) :
    ∃ reason, parse [slot.name ++ "=" ++ text] = .error (.refused (.invalidValue text slot.shown reason)) := by
  have hsettle : settle {} = .ok {} := settle_of_nothing rfl
  obtain ⟨reason, htake⟩ := h.refused text rfl hsettle (gives_start slot) hspells
  refine ⟨reason, parse_of_stop ?_⟩
  rw [List.foldlM_cons, htake]
  rfl

theorem interval_option :
    OptionReads .interval (fun request secs => { request with interval := some secs })
      fun text secs => Decimal.Numeral text secs.toNat := by
  refine option_reads (fun request text secs hnone h => ?_) fun request text hnone h => ?_
  · have hnot : ¬ request.interval.isSome = true := by simpa [Request.gives] using hnone
    unfold store
    simp only [if_neg hnot, Decimal.readUnsigned_eq_ok.2 h]
  · have hnot : ¬ request.interval.isSome = true := by simpa [Request.gives] using hnone
    obtain ⟨malformed, hread⟩ := error_of_not_ok fun ⟨secs, hread⟩ => h secs (Decimal.readUnsigned_eq_ok.1 hread)
    refine ⟨malformed.message, ?_⟩
    unfold store
    simp only [if_neg hnot, hread]

theorem level_option :
    OptionReads .level (fun request level => { request with level := some level }) SpellsLevel := by
  refine option_reads (fun request text level hnone h => ?_) fun request text hnone h => ?_
  · exact store_level (by simpa [Request.gives] using hnone) (parseLevel_eq_ok.2 h)
  · have hnot : ¬ request.level.isSome = true := by simpa [Request.gives] using hnone
    obtain ⟨reason, hread⟩ := error_of_not_ok fun ⟨level, hread⟩ => h level (parseLevel_eq_ok.1 hread)
    refine ⟨reason, ?_⟩
    unfold store
    simp only [if_neg hnot, hread]

/-! ## All ways -/

/-- The interval: a number as it is typed, in a variable with white space around it. -/
structure IntervalRoutes : Prop where
  inVariable : VariableReads .interval (fun settings secs => { settings with heartbeat.intervalSecs := secs })
    fun text secs => ∃ inner, Text.Strips text inner ∧ Decimal.Numeral inner secs.toNat
  asOption : OptionReads .interval (fun request secs => { request with interval := some secs })
    fun text secs => Decimal.Numeral text secs.toNat
  /-- nothing wraps around: a number of more than 64 bits is refused -/
  tooLarge (text : String) (n : Nat) : Decimal.Numeral text n → 2 ^ 64 ≤ n →
    (∀ before, applyOverrides (only "NVPROBE_HEARTBEAT_SECS" text) before =
      (before, .error (.notNumber "NVPROBE_HEARTBEAT_SECS" text))) ∧
    ∃ reason, parse ["--interval=" ++ text] = .error (.refused (.invalidValue text "--interval <SECS>" reason))
  /-- the decimal of a number that an integer of a file can hold is the same interval either way, and in a file -/
  same (n : Nat) : n ≤ 2 ^ 63 - 1 →
    (∀ before, applyOverrides (only "NVPROBE_HEARTBEAT_SECS" (toString n)) before =
      ({ before with heartbeat.intervalSecs := UInt64.ofNat n }, .ok ())) ∧
    parse ["--interval=" ++ toString n] = .ok { interval := some (UInt64.ofNat n) } ∧
    FileMakes (oneSetting "heartbeat" "interval_secs" (toString n)) { heartbeat.intervalSecs := UInt64.ofNat n } ∧
    ∀ (i : Int64) settings, i.toInt = n → FilesGive heartbeatLayout "interval_secs" (.integer i) settings →
      settings.heartbeat.intervalSecs = UInt64.ofNat n

/-- The level: a file takes the five names, the other ways any text that is one of them, or `warning`, but for the case
of ASCII letters. -/
structure LevelRoutes : Prop where
  inVariable : VariableReads .level (fun settings level => { settings with log.level := level }) SpellsLevel
  asOption : OptionReads .level (fun request level => { request with level := some level }) SpellsLevel
  inFile (level : Level) : FileMakes (oneSetting "log" "level" ("\"" ++ level.name ++ "\"")) { log.level := level }
  /-- what a file accepts, as text or as the key of a table, the other ways accept as the same level, which is shown as
  it was given -/
  same (text : String) (given : Value) (settings : Settings) : FilesGive logLayout "level" given settings →
    (given = .text text ∨ ∃ payload, given = .table [(text, payload)]) →
    (∀ before, applyOverrides (only "NVPROBE_LOG" text) before =
      ({ before with log.level := settings.log.level }, .ok ())) ∧
    parse ["--log-level=" ++ text] = .ok { level := some settings.log.level } ∧
    settings.log.level.name = text

/-- The truth values: either variable reads them alike, from what is left of its text without white space and case. -/
structure BooleanRoutes : Prop where
  verify : VariableReads .verify (fun settings verify => { settings with probe.verify := verify }) SpellsBoolean
  sync : VariableReads .sync (fun settings sync => { settings with probe.sync := sync }) SpellsBoolean
  stripped (text other inner otherInner : String) : Text.Strips text inner → Text.Strips other otherInner →
    inner.toLower = otherInner.toLower → ∀ before,
    applyOverrides (only "NVPROBE_VERIFY" text) before = applyOverrides (only "NVPROBE_VERIFY" other) before ∧
    applyOverrides (only "NVPROBE_SYNC" text) before = applyOverrides (only "NVPROBE_SYNC" other) before
  /-- `true` and `false` mean what they mean in a file -/
  same (value : Bool) :
    (∀ before, applyOverrides (only "NVPROBE_VERIFY" (toString value)) before =
        ({ before with probe.verify := value }, .ok ()) ∧
      applyOverrides (only "NVPROBE_SYNC" (toString value)) before = ({ before with probe.sync := value }, .ok ())) ∧
    FileMakes (oneSetting "probe" "verify" (toString value)) { probe.verify := value } ∧
    FileMakes (oneSetting "probe" "sync" (toString value)) { probe.sync := value } ∧
    (∀ settings, FilesGive probeLayout "verify" (.boolean value) settings → settings.probe.verify = value) ∧
    ∀ settings, FilesGive probeLayout "sync" (.boolean value) settings → settings.probe.sync = value

/-- every way to give a setting says what it accepts and as what, and they agree -/
structure RoutesAgree : Prop where
  interval : IntervalRoutes
  level : LevelRoutes
  boolean : BooleanRoutes

theorem intervalRoutes : IntervalRoutes where
  inVariable := interval_reads
  asOption := interval_option
  tooLarge text n hnumeral hn := by
    have hnone (secs : UInt64) : ¬ Decimal.Numeral text secs.toNat := fun hsecs => by
      have heq := hnumeral.unique hsecs
      have hbelow := secs.toNat_lt
      omega
    refine ⟨fun before => interval_reads.refused text before fun secs hspells => ?_,
      interval_option.parse_alone_refused hnone⟩
    obtain ⟨inner, hstrips, hinner⟩ := hspells
    rw [Text.Strips.unique hstrips (strips_numeral hnumeral)] at hinner
    exact hnone secs hinner
  same n hn := by
    have hbelow : n < UInt64.size := Nat.lt_of_le_of_lt hn (by decide)
    have hvalue : (UInt64.ofNat n).toNat = n := UInt64.toNat_ofNat_of_lt' hbelow
    have hnumeral : Decimal.Numeral (toString n) (UInt64.ofNat n).toNat := by
      rw [hvalue]
      exact Decimal.numeral_toString n
    refine ⟨fun before => interval_reads.accepted _ _ before (spellsInterval_of_numeral hnumeral),
      interval_option.parse_alone hnumeral, interval_file (by omega), fun i settings hi hgives => ?_⟩
    obtain ⟨_, hsame, hstands⟩ := interval_given hgives
    cases hsame
    refine UInt64.toNat_inj.1 ?_
    rw [hvalue]
    omega

theorem levelRoutes : LevelRoutes where
  inVariable := level_reads
  asOption := level_option
  inFile := level_file
  same text given settings hgives hgiven := by
    have hname : settings.log.level.name = text := by
      rcases level_given hgives with hlevel | ⟨_, hlevel⟩ <;> rcases hgiven with hgiven | ⟨_, hgiven⟩ <;>
        cases hlevel.symm.trans hgiven <;> rfl
    have hspells : SpellsLevel text settings.log.level := hname ▸ spellsLevel_name settings.log.level
    exact ⟨fun before => level_reads.accepted text _ before hspells, level_option.parse_alone hspells, hname⟩

theorem booleanRoutes : BooleanRoutes where
  verify := verify_reads
  sync := sync_reads
  stripped text other inner otherInner htext hother hsame before := by
    rw [← Text.trimmed_iff] at htext hother
    rw [← htext, ← hother] at hsame
    have hread (name : String) : parseBoolean name text = parseBoolean name other := parseBoolean_congr hsame
    have hverify : Variable.verify.override.apply text before = Variable.verify.override.apply other before := by
      simp only [Variable.override, verifyOverride, hread]
    have hsync : Variable.sync.override.apply text before = Variable.sync.override.apply other before := by
      simp only [Variable.override, syncOverride, hread]
    exact ⟨overrides_only_congr hverify, overrides_only_congr hsync⟩
  same value := by
    have hspells := spellsBoolean_toString value
    refine ⟨fun before => ⟨verify_reads.accepted _ value before hspells, sync_reads.accepted _ value before hspells⟩,
      verify_file value, sync_file value, fun settings hgives => ?_, fun settings hgives => ?_⟩
    · cases verify_given hgives
      rfl
    · cases sync_given hgives
      rfl

/-- **The ways to give a setting agree.** -/
theorem routes_agree : RoutesAgree where
  interval := intervalRoutes
  level := levelRoutes
  boolean := booleanRoutes

/-! The largest interval there is and the smallest there is not, and a level as a file names it. -/

def warnTable : Toml.Table := [("log", .table [("level", .text "warn")])]

theorem warnTable_ordered : Toml.OrderedTable warnTable :=
  ⟨by simp [warnTable, Toml.Keyed.Ascending], by simp [warnTable, Toml.Keyed.Ascending]⟩

theorem warnTable_gives : FilesGive logLayout "level" (.text "warn") {} where
  made := ⟨none, some warnTable, Toml.OrderedTable.nil, warnTable_ordered, rfl, rfl⟩

theorem edge_routes_agree :
    applyOverrides (only "NVPROBE_HEARTBEAT_SECS" "\u3000+018446744073709551615\n") {} =
      ({ heartbeat.intervalSecs := 18446744073709551615 }, .ok ()) ∧
    (∃ reason, parse ["--interval=18446744073709551616"] =
      .error (.refused (.invalidValue "18446744073709551616" "--interval <SECS>" reason))) ∧
    parse ["--log-level=warn"] = .ok { level := some .warn } := by
  obtain ⟨hinterval, hlevel, -⟩ := routes_agree
  have hlargest : SpellsInterval "\u3000+018446744073709551615\n" 18446744073709551615 :=
    readInterval_eq_ok.1 (by cbv)
  have hbeyond : Decimal.Numeral "18446744073709551616" (2 ^ 64) := Decimal.numeral_toString (2 ^ 64)
  exact ⟨hinterval.inVariable.accepted _ _ _ hlargest, (hinterval.tooLarge _ _ hbeyond (by decide)).2,
    (hlevel.same "warn" _ _ warnTable_gives (.inl rfl)).2.1⟩

end BlockProbe.Command
