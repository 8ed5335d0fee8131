/-
Printed settings load again.

Settings are printed as nine lines of statements, which make `spelledOut`, the table that holds every setting; and that
table decodes to the settings it is made from, alone in either of the two files.

- `readTable_printed`: what is printed spells the table.
- `decode_spelledOut`: the table decodes to the settings.
- `print_loads`: settings that can be printed load again from the printed text.
-/
import BlockProbe.Proofs.Settings.Layers
import BlockProbe.Proofs.Settings.Print
import BlockProbe.Proofs.Toml.Read

namespace BlockProbe.Settings

open BlockProbe.Files
open BlockProbe.Toml

/-- an unsigned number as a configuration integer -/
def asInteger (n : Nat) : Value := .integer (Int64.ofNat n)

/-- the table that holds every setting -/
def spelledOut (settings : Settings) : Table := [
  ("heartbeat", .table [
    ("interval_secs", asInteger settings.heartbeat.intervalSecs.toNat), ("message", .text settings.heartbeat.message)]),
  ("log", .table [("level", .text settings.log.level.name)]),
  ("probe", .table [
    ("file_mode", asInteger settings.probe.fileMode.toNat), ("sync", .boolean settings.probe.sync),
    ("verify", .boolean settings.probe.verify)])]

/-! ## Reading what is printed -/

/-- the statements that are printed -/
def printedStatements (settings : Settings) : List Statement := [
  .header ["probe"],
  .assignment ["file_mode"] (asInteger settings.probe.fileMode.toNat),
  .assignment ["verify"] (.boolean settings.probe.verify),
  .assignment ["sync"] (.boolean settings.probe.sync),
  .header ["heartbeat"],
  .assignment ["interval_secs"] (asInteger settings.heartbeat.intervalSecs.toNat),
  .assignment ["message"] (.text settings.heartbeat.message),
  .header ["log"],
  .assignment ["level"] (.text settings.log.level.name)]

theorem spells_printedNumber {n : Nat} (h : n < 2 ^ 63) : Spells (printedNumber n) (asInteger n) := spells_number h

theorem spells_boolean (value : Bool) : Spells (printedBoolean value) (.boolean value) := by
  cases value with
  | false => exact spells_false
  | true => exact spells_true

theorem spells_printedText (text : String) : Spells (printedText text) (.text text) :=
  spells_text (readText_printedText text)

/-- a level's name needs no escape -/
theorem spells_level (level : Level) : Spells (enclose '\x22' 1 level.name.toList) (.text level.name) := by
  refine spells_text fun rest => ?_
  cases level <;> rfl

variable {settings : Settings}

theorem readStatements_heading {name : String} (hname : IsKey name) (allowance : Nat) (rest : List Char) :
    readStatements (allowance + 1) (printedHeading name ++ rest) =
      (readStatements allowance rest).map (.header [name] :: ·) := by
  rw [← readStatements_header hname]
  simp only [printedHeading, List.cons_append, List.append_assoc, List.nil_append]

theorem readStatements_setting {key : String} (hkey : IsKey key) (allowance : Nat) {printed : List Char} {value : Value}
    (hvalue : Spells printed value) (rest : List Char) :
    readStatements (allowance + 1) (printedLine key printed ++ rest) =
      (readStatements allowance rest).map (.assignment [key] value :: ·) := by
  rw [← readStatements_assignment hkey allowance hvalue]
  simp only [printedLine, List.cons_append, List.append_assoc, List.nil_append]

theorem readStatements_printed (allowance : Nat) (h : settings.heartbeat.intervalSecs.toNat < 2 ^ 63) :
    readStatements (allowance + 12) (printed settings) = some (printedStatements settings) := by
  have hmode : settings.probe.fileMode.toNat < 2 ^ 63 := by
    have := settings.probe.fileMode.toNat_lt; omega
  have hlast : ∀ value, printedLine "level" value = printedLine "level" value ++ [] := fun _ => (List.append_nil _).symm
  unfold printed
  simp only [List.append_assoc, List.cons_append]
  rw [readStatements_heading (by decide), readStatements_setting (by decide) _ (spells_printedNumber hmode),
    readStatements_setting (by decide) _ (spells_boolean _), readStatements_setting (by decide) _ (spells_boolean _),
    readStatements_blank, readStatements_heading (by decide),
    readStatements_setting (by decide) _ (spells_printedNumber h),
    readStatements_setting (by decide) _ (spells_printedText _), readStatements_blank,
    readStatements_heading (by decide), hlast, readStatements_setting (by decide) _ (spells_level _),
    readStatements_nil]
  rfl

/-- a text of eleven lines has more than eleven characters -/
theorem length_printed (settings : Settings) : 11 ≤ (printed settings).length := by
  unfold printed printedHeading printedLine
  simp only [List.length_append, List.length_cons, List.length_nil]
  omega

theorem assemble_printedStatements (settings : Settings) :
    assemble (printedStatements settings) = some (spelledOut settings) := by
  simp [printedStatements, asInteger, assemble, Document.add, Document.empty, within, assign, define, openTable,
    Keyed.find?, Keyed.set, Keyed.put, entriesToTable, keyedToValue, Entry.toValue, settledEntries, settledEntry,
    Value.settled, standsForMoment, momentKey, spelledOut, -String.lt_iff_ltb]

/-- **What is printed spells the table.** -/
theorem readTable_printed (h : settings.heartbeat.intervalSecs.toNat < 2 ^ 63) :
    readTable (String.ofList (printed settings)) = some (spelledOut settings) := by
  refine readTable_of_statements ?_ ?_ (assemble_printedStatements settings)
  · rw [String.toList_ofList]
    have hhead : (printed settings).head? = some '[' := rfl
    rw [hhead]
    decide
  · rw [String.toList_ofList]
    obtain ⟨allowance, hallowance⟩ : ∃ allowance, (printed settings).length + 1 = allowance + 12 :=
      ⟨(printed settings).length - 11, by have := length_printed settings; omega⟩
    rw [hallowance]
    exact readStatements_printed allowance h

/-! ## Decoding the table -/

theorem asUnsigned32_asInteger (value : UInt32) : asUnsigned32 (asInteger value.toNat) = .ok value := by
  have hbound := value.toNat_lt
  have hint := Int64.toInt_ofNat_of_lt (Nat.lt_trans hbound (by decide))
  unfold asInteger asUnsigned32
  simp only [hint]
  rw [if_pos (by omega), Int.toNat_natCast, UInt32.ofNat_toNat]

theorem asUnsigned64_asInteger {value : UInt64} (h : value.toNat < 2 ^ 63) :
    asUnsigned64 (asInteger value.toNat) = .ok value := by
  have hint := Int64.toInt_ofNat_of_lt h
  unfold asInteger asUnsigned64
  simp only [hint]
  rw [if_pos (by omega), Int.toNat_natCast, UInt64.ofNat_toNat]

theorem levelNamed_name (level : Level) : levelNamed level.name = .ok level := by
  cases level <;> rfl

theorem decode_spelledOut (h : settings.heartbeat.intervalSecs.toNat < 2 ^ 63) :
    decode (spelledOut settings) = .ok settings := by
  simp [decode, spelledOut, takeSection, Section.read, Section.takeEntry, probeSection, heartbeatSection, logSection,
    Setting.of, asUnsigned32_asInteger, asUnsigned64_asInteger h, asBoolean, asText, asLevel, levelNamed_name]
  rfl

/-- laid over nothing, the table stays as it is -/
theorem overlay_spelledOut (settings : Settings) : overlay [] (spelledOut settings) = spelledOut settings := by
  simp [spelledOut, overlay, overlayEntry, overlayValue, Keyed.find?, Keyed.put, -String.lt_iff_ltb]

/-- the table loads alone, in either place -/
theorem ofLayers_spelledOut (h : settings.heartbeat.intervalSecs.toNat < 2 ^ 63) :
    ofLayers [some (spelledOut settings), none] = .ok settings ∧
      ofLayers [none, some (spelledOut settings)] = .ok settings := by
  have hlower : merged (some (spelledOut settings)) none = spelledOut settings := overlay_spelledOut settings
  have hupper : merged none (some (spelledOut settings)) = spelledOut settings := overlay_spelledOut settings
  constructor
  · rw [ofLayers_eq, hlower, decode_spelledOut h]; rfl
  · rw [ofLayers_eq, hupper, decode_spelledOut h]; rfl

/-- the one file that there is decides what is loaded, in either place -/
theorem loadFiles_of_single {tree : Tree} {start : Location} {path : String}
    {layer : Files.Attempt LoadError (Option Table)} (hlayer : readLayer tree start path = layer)
    {loaded : Files.Attempt LoadError Settings}
    (hlower : (layer >>= fun table => .ofExcept (ofLayers [table, none])) = loaded)
    (hupper : (layer >>= fun table => .ofExcept (ofLayers [none, table])) = loaded) :
    (∀ global, (∀ other ∈ global, tree.hasPath start other = false) → loadFiles tree start global path = loaded) ∧
    (∀ project, tree.hasPath start project = false → loadFiles tree start (some path) project = loaded) := by
  constructor
  · intro global hglobal
    unfold loadFiles
    rw [hlayer]
    cases global with
    | none => exact hupper
    | some other =>
      simp only [readLayer_of_missing (hglobal other rfl), Files.Attempt.done_bind]
      exact hupper
  · intro project hproject
    unfold loadFiles
    simp only [hlayer, readLayer_of_missing hproject, Files.Attempt.done_bind]
    exact hlower

/-- **Printed settings load again**, from the one file that there is, if their interval is one that a configuration text
can hold; otherwise nothing is printed. A file that the process may not read is reported instead. -/
theorem print_loads (settings : Settings) :
    (settings.heartbeat.intervalSecs.toNat ≤ 2 ^ 63 - 1 →
      ∃ text, print? settings = some text ∧
        ∀ (tree : Tree) (start location : Location) (path : String) (mode : UInt32),
          resolve tree .use start path = .ok (.existing location (.file mode (Text.encode text))) →
          let loaded := if tree.caller.mayOpen .read location (.file mode (Text.encode text)) then .done settings
            else .failed (.unreadable .accessDenied)
          (∀ global, (∀ other ∈ global, tree.hasPath start other = false) →
            loadFiles tree start global path = loaded) ∧
          (∀ project, tree.hasPath start project = false → loadFiles tree start (some path) project = loaded)) ∧
    (2 ^ 63 - 1 < settings.heartbeat.intervalSecs.toNat → print? settings = none) := by
  refine ⟨fun hwritable => ?_, fun hlarge => ?_⟩
  · have hless : settings.heartbeat.intervalSecs.toNat < 2 ^ 63 := by omega
    have hprint : ¬ settings.heartbeat.intervalSecs.toNat > greatestWritable := by rw [greatestWritable]; omega
    refine ⟨String.ofList (printed settings), by rw [print?, if_neg hprint], ?_⟩
    intro tree start location path mode hfile
    obtain ⟨hlower, hupper⟩ := ofLayers_spelledOut hless
    cases hopen : tree.caller.mayOpen .read location (.file mode (Text.encode (String.ofList (printed settings)))) with
    | true =>
      refine loadFiles_of_single (readLayer_of_file hfile hopen (readTable_printed hless)) ?_ ?_
      · exact congrArg Files.Attempt.ofExcept hlower
      · exact congrArg Files.Attempt.ofExcept hupper
    | false => exact loadFiles_of_single (readLayer_of_closed hfile hopen) rfl rfl
  · rw [print?, if_pos]
    rw [greatestWritable]
    omega

/-! Settings at the edge of what can be printed, with a message that no form of text holds as it stands. -/

def edgeSettings : Settings where
  probe := { fileMode := 0xFFFFFFFF, verify := false, sync := true }
  heartbeat := { intervalSecs := 0x7FFFFFFFFFFFFFFF, message := "say \"\"\"hi\"\"\"\r\n\\ '''\x01'''" }
  log := { level := .trace }

/-- a working directory with one configuration file -/
def treeHolding (bytes : List UInt8) : Tree where
  entries := [
    (["work"], .directory), (["work", ".nvprobe"], .directory),
    (["work", ".nvprobe", "config.toml"], .file 0o644 bytes)]

theorem edge_print_loads :
    (∃ text, print? edgeSettings = some text ∧
      loadFiles (treeHolding (Text.encode text)) ["work"] none projectPath = .done edgeSettings) ∧
    print? { edgeSettings with heartbeat.intervalSecs := 0x8000000000000000 } = none := by
  obtain ⟨hloads, -⟩ := print_loads edgeSettings
  obtain ⟨text, hprint, hloads⟩ := hloads (by decide)
  obtain ⟨hproject, -⟩ := hloads (treeHolding (Text.encode text)) ["work"] ["work", ".nvprobe", "config.toml"]
    projectPath 0o644 (resolve_projectPath_file rfl rfl rfl rfl)
  obtain ⟨-, hrefused⟩ := print_loads { edgeSettings with heartbeat.intervalSecs := 0x8000000000000000 }
  exact ⟨⟨text, hprint, hproject none (by simp)⟩, hrefused (by decide)⟩

end BlockProbe.Settings
