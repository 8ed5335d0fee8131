/-
Files that give every setting, and files that give the defaults.

Decoding looks at a section through its fields only (`Layout.Alike`), and a field with a value that is no table hides
whatever is below it. So a file that spells out every setting decides all of them, however misshapen the file below it
is; and defaults that are spelled out below a file change nothing about it, be it good or bad.

- `decode_eq_of_alike`: tables whose sections give the same for every field decode alike.
- `decode_over`: settings that are spelled out over any table are decoded.
- `decode_over_defaults`: laid over the defaults a table decodes as it does alone.
- `complete_and_neutral`: both, of tables and of files.
-/
import BlockProbe.Proofs.Settings.Layering
import BlockProbe.Proofs.Settings.Offences

namespace BlockProbe.Settings

open BlockProbe.Files
open BlockProbe.Toml

/-! ## Sections that give the same -/

/-- two values of a section, or none, that give the same for every field: as tables that may differ elsewhere -/
inductive Layout.Alike (layout : Layout) : Option Value → Option Value → Prop
  | same (value : Option Value) : Alike layout value value
  | tables {first second : Table}
    (h : ∀ field ∈ layout.fields, Keyed.find? field.key first = Keyed.find? field.key second) :
    Alike layout (some (.table first)) (some (.table second))

namespace Layout

variable {layout : Layout}

theorem Alike.symm {first second : Option Value} (h : layout.Alike first second) : layout.Alike second first := by
  cases h with
  | same => exact .same first
  | tables h => exact .tables fun field hfield => (h field hfield).symm

/-- the offences of a table are those of its fields -/
theorem Offends.of_table {first second : Table} {spot : Spot} {problem : Problem}
    (h : ∀ field ∈ layout.fields, ∀ given, Keyed.find? field.key first = some given → ¬ field.kind.Accepts given →
      Keyed.find? field.key second = some given)
    (hoffends : layout.Offends (.table first) spot problem) : layout.Offends (.table second) spot problem := by
  cases hoffends with
  | whole htable => exact (htable trivial).elim
  | field hfield hgiven hnot => exact .field hfield (h _ hfield _ hgiven hnot) hnot

theorem Alike.offends {first second : Option Value} (h : layout.Alike first second) {spot : Spot} {problem : Problem}
    (hoffends : ∃ value, first = some value ∧ layout.Offends value spot problem) :
    ∃ value, second = some value ∧ layout.Offends value spot problem := by
  cases h with
  | same value => exact hoffends
  | tables h =>
    obtain ⟨value, hvalue, hoffends⟩ := hoffends
    cases hvalue
    exact ⟨_, rfl, hoffends.of_table fun field hfield given hgiven _ => (h field hfield).symm.trans hgiven⟩

theorem Alike.lookUp {table other : Table}
    (h : layout.Alike (Keyed.find? layout.name table) (Keyed.find? layout.name other)) {field : Field}
    (hfield : field ∈ layout.fields) : layout.lookUp field.key table = layout.lookUp field.key other := by
  unfold Layout.lookUp
  generalize Keyed.find? layout.name table = first at h
  generalize Keyed.find? layout.name other = second at h
  cases h with
  | same value => rfl
  | tables h => exact h field hfield

/-- a table that gives every field a value that is no table hides what is below it -/
theorem alike_overlayValue (below : Option Value) {entries : Table} (hd : Keyed.Distinct entries)
    (h : ∀ field ∈ layout.fields, ∃ value, Keyed.find? field.key entries = some value ∧ ¬ value.IsTable) :
    layout.Alike (some (overlayValue below (.table entries))) (some (.table entries)) := by
  by_cases hbelow : ∃ base, below = some (.table base)
  · obtain ⟨base, rfl⟩ := hbelow
    refine .tables fun field hfield => ?_
    obtain ⟨value, hvalue, hleaf⟩ := h field hfield
    rw [find?_overlay base hd, hvalue]
    exact congrArg some (overlayValue_leaf _ hleaf)
  · rw [overlayValue_of_not_table fun base _ hb => hbelow ⟨base, hb.1⟩]
    exact .same _

end Layout

/-- **Tables that give the same for every field decode alike.** -/
theorem decode_eq_of_alike {table other : Table} (htable : OrderedTable table) (hother : OrderedTable other)
    (h : ∀ layout ∈ layouts, layout.Alike (Keyed.find? layout.name table) (Keyed.find? layout.name other)) :
    decode table = decode other := by
  refine decode_eq_of_same htable hother (fun place problem => ⟨?_, ?_⟩) fun settings => FieldsGiven.congr ?_
  · rintro ⟨layout, hmem, hname, hoffends⟩
    exact ⟨layout, hmem, hname, (h layout hmem).offends hoffends⟩
  · rintro ⟨layout, hmem, hname, hoffends⟩
    exact ⟨layout, hmem, hname, (h layout hmem).symm.offends hoffends⟩
  · exact fun layout hmem field hfield => (h layout hmem).lookUp hfield

/-! ## Settings that are spelled out -/

theorem spelledOut_ordered (settings : Settings) : OrderedTable (spelledOut settings) :=
  ⟨by simp [spelledOut, Keyed.Ascending, -String.lt_iff_ltb],
    by simp [spelledOut, Keyed.Ascending, asInteger, -String.lt_iff_ltb]⟩

/-- every section is there and gives every field a value that is no table -/
theorem spelledOut_gives (settings : Settings) : ∀ layout ∈ layouts, ∃ entries,
    Keyed.find? layout.name (spelledOut settings) = some (.table entries) ∧
      ∀ field ∈ layout.fields, ∃ value, Keyed.find? field.key entries = some value ∧ ¬ value.IsTable := by
  refine forall_layouts.2 ⟨⟨_, rfl, ?_⟩, ⟨_, rfl, ?_⟩, ⟨_, rfl, ?_⟩⟩
  all_goals simp [heartbeatLayout, logLayout, probeLayout, Keyed.find?, Value.IsTable, asInteger]

theorem spelledOut_section (settings : Settings) {layout : Layout} (hmem : layout ∈ layouts) : ∃ entries,
    Keyed.find? layout.name (spelledOut settings) = some (.table entries) ∧ Keyed.Distinct entries ∧
      ∀ field ∈ layout.fields, ∃ value, Keyed.find? field.key entries = some value ∧ ¬ value.IsTable := by
  obtain ⟨entries, hentries, hgives⟩ := spelledOut_gives settings layout hmem
  exact ⟨entries, hentries, ((spelledOut_ordered settings).find? hentries).toTable.ascending.distinct, hgives⟩

/-- **Settings that are spelled out over any table** are decoded. -/
theorem decode_over {settings : Settings} (h : settings.heartbeat.intervalSecs.toNat < 2 ^ 63) {lower : Table}
    (hlower : OrderedTable lower) : decode (overlay lower (spelledOut settings)) = .ok settings := by
  have hordered := spelledOut_ordered settings
  rw [← decode_spelledOut h]
  refine decode_eq_of_alike (hlower.overlay hordered) hordered fun layout hmem => ?_
  obtain ⟨entries, hentries, hd, hgives⟩ := spelledOut_section settings hmem
  rw [find?_overlay lower hordered.distinct, hentries]
  exact Layout.alike_overlayValue _ hd hgives

/-! ## Defaults that are spelled out -/

/-- the defaults give every field its default -/
theorem defaults_given : FieldsGiven (spelledOut Settings.default) Settings.default :=
  ((decode_eq_ok (spelledOut_ordered _)).1 (decode_spelledOut (by decide))).2

/-- no rule is broken by the defaults -/
theorem defaults_decodable : Decodable (spelledOut Settings.default) :=
  ((decode_eq_ok (spelledOut_ordered _)).1 (decode_spelledOut (by decide))).1

/-- a field of a table that is laid over the defaults is what the table gives, or its default where it gives none -/
theorem lookUp_over_defaults {upper : Table} (hupper : OrderedTable upper) {layout : Layout} (hmem : layout ∈ layouts)
    {field : Field} (hfield : field ∈ layout.fields) :
    layout.lookUp field.key (overlay (spelledOut Settings.default) upper) = layout.lookUp field.key upper ∨
      (layout.lookUp field.key upper = none ∧ layout.lookUp field.key (overlay (spelledOut Settings.default) upper) =
        layout.lookUp field.key (spelledOut Settings.default)) := by
  obtain ⟨entries, hentries, -, hgives⟩ := spelledOut_section Settings.default hmem
  obtain ⟨standard, hstandard, hleaf⟩ := hgives field hfield
  unfold Layout.lookUp
  rw [find?_overlay _ hupper.distinct, hentries]
  cases habove : Keyed.find? layout.name upper with
  | none => exact .inr ⟨rfl, rfl⟩
  | some above =>
    by_cases htable : above.IsTable
    · obtain ⟨high, rfl⟩ := Value.isTable_iff.1 htable
      have hd := (hupper.find? habove).toTable.ascending.distinct
      show Keyed.find? field.key (overlay entries high) = Keyed.find? field.key high ∨
        (Keyed.find? field.key high = none ∧
          Keyed.find? field.key (overlay entries high) = Keyed.find? field.key entries)
      rw [find?_overlay entries hd, hstandard]
      cases Keyed.find? field.key high with
      | none => exact .inr ⟨rfl, rfl⟩
      | some own => exact .inl (congrArg some (overlayValue_over_leaf hleaf own))
    · exact .inl (by rw [Option.bind_some, overlayValue_leaf _ htable, Option.bind_some])

/-- a field that is filled in with its default stays what it is -/
theorem Given.filled {β : Type} {standsFor : Value → β → Prop} {source filled defaults : Option Value}
    {standard value : β} (h : Given standsFor source standard value)
    (hdefaults : Given standsFor defaults standard standard)
    (hfilled : filled = source ∨ (source = none ∧ filled = defaults)) : Given standsFor filled standard value := by
  rcases hfilled with rfl | ⟨rfl, rfl⟩
  · exact h
  · rw [show value = standard from h]
    exact hdefaults

theorem fieldsGiven_over_defaults {upper : Table} (hupper : OrderedTable upper) {settings : Settings}
    (h : FieldsGiven upper settings) : FieldsGiven (overlay (spelledOut Settings.default) upper) settings := by
  have hd := defaults_given
  have hfilled : ∀ layout ∈ layouts, ∀ field ∈ layout.fields, _ := fun _ hmem _ hfield =>
    lookUp_over_defaults hupper hmem hfield
  simp only [forall_layouts, heartbeatLayout, logLayout, probeLayout, List.forall_mem_cons, List.not_mem_nil,
    false_implies, implies_true, and_true] at hfilled
  obtain ⟨⟨hinterval, hmessage⟩, hlevel, hmode, hverify, hsync⟩ := hfilled
  exact ⟨Given.filled h.fileMode hd.fileMode hmode, Given.filled h.verify hd.verify hverify,
    Given.filled h.sync hd.sync hsync, Given.filled h.interval hd.interval hinterval,
    Given.filled h.message hd.message hmessage, Given.filled h.level hd.level hlevel⟩

/-- over a section of the defaults a section breaks the rules that it breaks alone -/
theorem Layout.offends_over_defaults {layout : Layout} (hmem : layout ∈ layouts) {entries : Table}
    (hentries : Keyed.find? layout.name (spelledOut Settings.default) = some (.table entries)) {value : Value}
    (hvalue : value.Ordered) {spot : Spot} {problem : Problem} :
    layout.Offends (overlayValue (some (.table entries)) value) spot problem ↔ layout.Offends value spot problem := by
  by_cases htable : value.IsTable
  swap
  · rw [overlayValue_leaf _ htable]
  obtain ⟨high, rfl⟩ := Value.isTable_iff.1 htable
  have hd := hvalue.toTable.ascending.distinct
  obtain ⟨_, hsame, -, hgives⟩ := spelledOut_section Settings.default hmem
  cases hsame.symm.trans hentries
  have hadmits : layout.Admits (.table entries) := defaults_decodable layout hmem _ hentries
  have hown : ∀ field ∈ layout.fields, ∀ own,
      overlayValue (Keyed.find? field.key entries) own = own := fun field hfield own => by
    obtain ⟨standard, hstandard, hleaf⟩ := hgives field hfield
    rw [hstandard, overlayValue_over_leaf hleaf]
  constructor
  · intro h
    replace h : layout.Offends (.table (overlay entries high)) spot problem := h
    refine h.of_table fun field hfield given hgiven hnot => ?_
    rw [find?_overlay entries hd] at hgiven
    cases hkey : Keyed.find? field.key high with
    | none =>
      -- the default is there, and it is acceptable
      rw [hkey] at hgiven
      exact (hnot (hadmits field hfield given hgiven)).elim
    | some own =>
      rw [hkey] at hgiven
      exact (congrArg some (hown field hfield own)).symm.trans hgiven
  · intro h
    show layout.Offends (.table (overlay entries high)) spot problem
    refine h.of_table fun field hfield given hgiven _ => ?_
    rw [find?_overlay entries hd, hgiven]
    exact congrArg some (hown field hfield given)

/-- **Laid over the defaults a table decodes as it does alone**, or is refused as it is alone. -/
theorem decode_over_defaults {upper : Table} (hupper : OrderedTable upper) :
    decode (overlay (spelledOut Settings.default) upper) = decode upper := by
  refine (decode_eq_of_same hupper ((spelledOut_ordered _).overlay hupper) (fun place problem => ?_)
    fun settings => fieldsGiven_over_defaults hupper).symm
  refine exists_congr fun layout => and_congr_right fun hmem => and_congr_right fun _ => ?_
  obtain ⟨entries, hentries, -⟩ := spelledOut_section Settings.default hmem
  rw [find?_overlay _ hupper.distinct, hentries]
  cases habove : Keyed.find? layout.name upper with
  | none =>
    refine iff_of_false (by rintro ⟨_, ⟨⟩, -⟩) ?_
    rintro ⟨_, ⟨⟩, hoffends⟩
    exact Layout.admits_iff.1 (defaults_decodable layout hmem _ hentries) _ _ hoffends
  | some above =>
    constructor
    · rintro ⟨_, ⟨⟩, hoffends⟩
      exact ⟨_, rfl, (Layout.offends_over_defaults hmem hentries (hupper.find? habove)).2 hoffends⟩
    · rintro ⟨_, ⟨⟩, hoffends⟩
      exact ⟨_, rfl, (Layout.offends_over_defaults hmem hentries (hupper.find? habove)).1 hoffends⟩

/-! ## Layers and files -/

theorem ofLayers_over {settings : Settings} (h : settings.heartbeat.intervalSecs.toNat < 2 ^ 63) (lower : Option Table)
    (hlower : OrderedTable (tableOf lower)) : ofLayers [lower, some (spelledOut settings)] = .ok settings := by
  have hmerged : merged lower (some (spelledOut settings)) = overlay (tableOf lower) (spelledOut settings) := by
    rw [merged, nil_overlay hlower]
    rfl
  rw [ofLayers_eq, hmerged, decode_over h hlower]
  rfl

theorem ofLayers_over_defaults (upper : Option Table) (hupper : OrderedTable (tableOf upper)) :
    ofLayers [some (spelledOut Settings.default), upper] = ofLayers [none, upper] := by
  have hmerged : merged (some (spelledOut Settings.default)) upper =
      overlay (spelledOut Settings.default) (tableOf upper) := by
    rw [merged, tableOf, Option.getD_some, overlay_spelledOut]
  have halone : merged none upper = tableOf upper := nil_overlay hupper
  rw [ofLayers_eq, ofLayers_eq, hmerged, halone, decode_over_defaults hupper]

variable {tree : Tree} {start : Location} {global project : String}

theorem loadFiles_over {settings : Settings} (h : settings.heartbeat.intervalSecs.toNat < 2 ^ 63)
    {lower : Option Table} (hglobal : readLayer tree start global = .done lower)
    (hproject : readLayer tree start project = .done (some (spelledOut settings))) :
    loadFiles tree start (some global) project = .done settings := by
  rw [loadFiles_of_read, Option.map_some, Option.getD_some, hglobal, hproject]
  exact congrArg Attempt.ofExcept (ofLayers_over h lower (readLayer_ordered hglobal))

theorem loadFiles_over_defaults
    (hglobal : readLayer tree start global = .done (some (spelledOut Settings.default))) :
    loadFiles tree start (some global) project = loadFiles tree start none project := by
  rw [loadFiles_of_read, loadFiles_of_read, Option.map_some, Option.getD_some, hglobal]
  cases hproject : readLayer tree start project with
  | done upper => exact congrArg Attempt.ofExcept (ofLayers_over_defaults upper (readLayer_ordered hproject))
  | failed error => rfl
  | waits => rfl

/-- **A complete file wins, and defaults are neutral.** Settings that are spelled out in the project's file are loaded
from over whatever the operator's file holds; an operator's file that spells out the defaults is as good as none. -/
theorem complete_and_neutral :
    (∀ settings : Settings, settings.heartbeat.intervalSecs.toNat ≤ 2 ^ 63 - 1 →
      (∀ lower, OrderedTable lower → ofLayers [some lower, some (spelledOut settings)] = .ok settings) ∧
      (∀ (tree : Tree) (start : Location) (global project : String) (lower : Option Table),
        readLayer tree start global = .done lower →
        readLayer tree start project = .done (some (spelledOut settings)) →
        loadFiles tree start (some global) project = .done settings)) ∧
    (∀ upper, OrderedTable upper →
      ofLayers [some (spelledOut Settings.default), some upper] = ofLayers [none, some upper]) ∧
    (∀ (tree : Tree) (start : Location) (global project : String),
      readLayer tree start global = .done (some (spelledOut Settings.default)) →
      loadFiles tree start (some global) project = loadFiles tree start none project) := by
  refine ⟨fun settings hinterval => ?_, ?_, ?_⟩
  · have hless : settings.heartbeat.intervalSecs.toNat < 2 ^ 63 := by omega
    refine ⟨fun lower hlower => ofLayers_over hless (some lower) hlower, ?_⟩
    intro tree start global project lower hglobal hproject
    exact loadFiles_over hless hglobal hproject
  · exact fun upper hupper => ofLayers_over_defaults (some upper) hupper
  · exact fun tree start global project hglobal => loadFiles_over_defaults hglobal

/-! A table in which nothing has its shape, and a working directory with the operator's file beside the project's. -/

def misshapenTable : Table := [
  ("heartbeat", .integer 3),
  ("log", .table [("level", .table [("debug", .table []), ("trace", .integer 1)]), ("other", .boolean true)]),
  ("probe", .array [.text "0644", .table []])]

theorem misshapenTable_ordered : OrderedTable misshapenTable :=
  ⟨by simp [misshapenTable, Keyed.Ascending, -String.lt_iff_ltb],
    by simp [misshapenTable, Keyed.Ascending, -String.lt_iff_ltb]⟩

def treeWithBoth (operator project : List UInt8) : Tree where
  entries := (["work", "operator.toml"], .file 0o644 operator) :: (treeHolding project).entries

theorem treeWithBoth_operator (operator project : List UInt8) :
    resolve (treeWithBoth operator project) .use ["work"] "operator.toml" =
      .ok (.existing ["work", "operator.toml"] (.file 0o644 operator)) := by
  have hname : "operator.toml".utf8ByteSize = 13 := by decide
  have habsolute : isAbsolute "operator.toml" = false := by decide
  have hcomponents : components "operator.toml" = ["operator.toml"] := by decide
  unfold resolve
  simp [hname, habsolute, hcomponents, pathLimit, linkLimit, walkFollowing, walk, treeWithBoth, Tree.get?, Tree.find?,
    nameLimit]

theorem complete_over_misshapen :
    (OrderedTable misshapenTable ∧ (ofLayers [some misshapenTable, none]).toOption = none ∧
      edgeSettings.heartbeat.intervalSecs.toNat ≤ 2 ^ 63 - 1) ∧
    ofLayers [some misshapenTable, some (spelledOut edgeSettings)] = .ok edgeSettings ∧
    ofLayers [some (spelledOut Settings.default), some brokenTable] = ofLayers [none, some brokenTable] ∧
    loadFiles (treeWithBoth (Text.encode "log = 7") (Text.encode (String.ofList (printed edgeSettings)))) ["work"]
      (some "operator.toml") projectPath = .done edgeSettings ∧
    loadFiles (treeWithBoth (Text.encode (String.ofList (printed Settings.default))) (Text.encode "log = 7")) ["work"]
      (some "operator.toml") projectPath =
    loadFiles (treeWithBoth (Text.encode (String.ofList (printed Settings.default))) (Text.encode "log = 7")) ["work"]
      none projectPath := by
  obtain ⟨hcomplete, htables, hfiles⟩ := complete_and_neutral
  have hinterval : edgeSettings.heartbeat.intervalSecs.toNat ≤ 2 ^ 63 - 1 := by decide
  obtain ⟨hlayers, hloads⟩ := hcomplete edgeSettings hinterval
  have hlog : readTable "log = 7" = some [("log", .integer 7)] := by cbv
  have hoperator := fun project => readLayer_of_file (treeWithBoth_operator (Text.encode "log = 7") project) rfl hlog
  have hedge := readTable_printed (show edgeSettings.heartbeat.intervalSecs.toNat < 2 ^ 63 by decide)
  have hdefaults := readTable_printed (show Settings.default.heartbeat.intervalSecs.toNat < 2 ^ 63 by decide)
  refine ⟨⟨misshapenTable_ordered, rfl, hinterval⟩, hlayers _ misshapenTable_ordered, htables _ brokenTable_ordered,
    ?_, ?_⟩
  · exact hloads _ _ _ _ _ (hoperator _) (readLayer_of_file (resolve_projectPath_file rfl rfl rfl rfl) rfl hedge)
  · exact hfiles _ _ _ _ (readLayer_of_file (treeWithBoth_operator _ _) rfl hdefaults)

end BlockProbe.Settings
