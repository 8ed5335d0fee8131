/-
Keys that mean nothing.

A table says something about the settings under the names of the sections, and in a section that is a table under the
keys of its fields. Two tables may differ in everything else: entries that only one of them has, or that hold other
values in the other, tables of any depth among them. Laid over each other such tables differ in nothing that means
anything either, whichever of these entries meet, so what is loaded is the same, and so is what is found wrong.

- `SameButUnknown`: tables that differ in unknown keys alone.
- `sameButUnknown_put`, `sameButUnknown_putIn`: an unknown entry beside the sections, or beside the fields of one.
- `sameButUnknown_merged`: the merged tables differ in unknown keys alone if those of either layer do.
- `unknown_keys_inert`: what is loaded does not depend on unknown keys.
-/
import BlockProbe.Proofs.Settings.Complete
import BlockProbe.Proofs.Settings.Precedence

namespace BlockProbe.Settings

open BlockProbe.Files
open BlockProbe.Toml

/-- two tables that differ in unknown keys alone: beside the sections, and beside the fields of a section that is a
table in both -/
def SameButUnknown (table other : Table) : Prop :=
  ∀ layout ∈ layouts, layout.Alike (Keyed.find? layout.name table) (Keyed.find? layout.name other)

namespace Layout

variable {layout : Layout} {first second : Option Value}

/-- the key of one of the section's fields -/
def IsKey (layout : Layout) (key : String) : Prop := ∃ field ∈ layout.fields, field.key = key

theorem alike_iff : layout.Alike first second ↔ AlikeUnder layout.IsKey first second := by
  constructor
  · intro h
    cases h with
    | same => exact .same first
    | tables h =>
      refine .tables fun key hkey => ?_
      obtain ⟨field, hfield, rfl⟩ := hkey
      exact h field hfield
  · intro h
    cases h with
    | same => exact .same first
    | tables h => exact .tables fun field hfield => h field.key ⟨field, hfield, rfl⟩

theorem Alike.trans {third : Option Value} (h : layout.Alike first second) (hthird : layout.Alike second third) :
    layout.Alike first third := by
  cases h with
  | same => exact hthird
  | tables h =>
    cases hthird with
    | same => exact .tables h
    | tables hthird => exact .tables fun field hfield => (h field hfield).trans (hthird field hfield)

end Layout

/-! ## Unknown entries -/

section Entries

variable {table other third : Table}

theorem SameButUnknown.trans (h : SameButUnknown table other) (hthird : SameButUnknown other third) :
    SameButUnknown table third := fun layout hmem => (h layout hmem).trans (hthird layout hmem)

/-- **An entry beside the sections** means nothing. -/
theorem sameButUnknown_put {name : String} (hname : ∀ layout ∈ layouts, layout.name ≠ name) (value : Value) :
    SameButUnknown table (Keyed.put name value table) := by
  intro layout hmem
  rw [Keyed.find?_put, if_neg (hname layout hmem).symm]
  exact .same _

/-- **An entry beside a section's fields** means nothing in a section that is a table. -/
theorem sameButUnknown_putIn {layout : Layout} (hmem : layout ∈ layouts) {entries : Table}
    (hentries : Keyed.find? layout.name table = some (.table entries)) {key : String} (hkey : ¬ layout.IsKey key)
    (value : Value) : SameButUnknown table (Keyed.put layout.name (.table (Keyed.put key value entries)) table) := by
  intro another hanother
  rw [Keyed.find?_put]
  by_cases hname : layout.name = another.name
  · cases eq_of_name hmem hanother hname
    rw [if_pos rfl, hentries]
    refine .tables fun field hfield => ?_
    rw [Keyed.find?_put, if_neg]
    rintro rfl
    exact hkey ⟨field, hfield, rfl⟩
  · rw [if_neg hname]
    exact .same _

end Entries

/-! ## Layers -/

section Layers

variable {lower lowerOther upper upperOther : Option Table}

/-- **Merging keeps tables alike.** An unknown entry of one layer may meet anything in the other. -/
theorem sameButUnknown_merged (hlower : OrderedTable (tableOf lower)) (hlowerOther : OrderedTable (tableOf lowerOther))
    (hupper : OrderedTable (tableOf upper)) (hupperOther : OrderedTable (tableOf upperOther))
    (hbelow : SameButUnknown (tableOf lower) (tableOf lowerOther))
    (habove : SameButUnknown (tableOf upper) (tableOf upperOther)) :
    SameButUnknown (merged lower upper) (merged lowerOther upperOther) := by
  intro layout hmem
  rw [Layout.alike_iff, find?_merged hlower hupper, find?_merged hlowerOther hupperOther]
  exact alikeUnder_laid (Layout.alike_iff.1 (hbelow layout hmem)) (Layout.alike_iff.1 (habove layout hmem))
    (fun _ h => hupper.find? h) (fun _ h => hupperOther.find? h)

theorem ofLayers_sameButUnknown (hlower : OrderedTable (tableOf lower))
    (hlowerOther : OrderedTable (tableOf lowerOther)) (hupper : OrderedTable (tableOf upper))
    (hupperOther : OrderedTable (tableOf upperOther))
    (hbelow : SameButUnknown (tableOf lower) (tableOf lowerOther))
    (habove : SameButUnknown (tableOf upper) (tableOf upperOther)) :
    ofLayers [lower, upper] = ofLayers [lowerOther, upperOther] := by
  have hmerged := sameButUnknown_merged hlower hlowerOther hupper hupperOther hbelow habove
  have hdecode : decode (merged lower upper) = decode (merged lowerOther upperOther) :=
    decode_eq_of_alike (merged_ordered hlower hupper) (merged_ordered hlowerOther hupperOther) hmerged
  calc ofLayers [lower, upper] = (decode (merged lower upper)).mapError .misshapen := ofLayers_eq lower upper
    _ = (decode (merged lowerOther upperOther)).mapError .misshapen := by rw [hdecode]
    _ = ofLayers [lowerOther, upperOther] := (ofLayers_eq lowerOther upperOther).symm

end Layers

/-- **Unknown keys are inert.** Of two pairs of tables that differ in unknown keys alone the same is loaded: the same
settings, or the same problem in the same place. So it is of files that hold such tables, wherever they are. -/
theorem unknown_keys_inert :
    (∀ lower lowerOther upper upperOther, OrderedTable lower → OrderedTable lowerOther → OrderedTable upper →
      OrderedTable upperOther → SameButUnknown lower lowerOther → SameButUnknown upper upperOther →
      ofLayers [some lower, some upper] = ofLayers [some lowerOther, some upperOther]) ∧
    (∀ (tree treeOther : Tree) (start startOther : Location) (global globalOther : Option String)
      (project projectOther : String) (lower lowerOther upper upperOther : Option Table),
      ReadsLayers tree start global project lower upper →
      ReadsLayers treeOther startOther globalOther projectOther lowerOther upperOther →
      SameButUnknown (tableOf lower) (tableOf lowerOther) → SameButUnknown (tableOf upper) (tableOf upperOther) →
      loadFiles tree start global project = loadFiles treeOther startOther globalOther projectOther) := by
  constructor
  · intro lower lowerOther upper upperOther hlower hlowerOther hupper hupperOther hbelow habove
    exact @ofLayers_sameButUnknown (some lower) (some lowerOther) (some upper) (some upperOther) hlower hlowerOther
      hupper hupperOther hbelow habove
  · intro tree treeOther start startOther global globalOther project projectOther lower lowerOther upper upperOther
      hreads hreadsOther hbelow habove
    obtain ⟨hlower, hupper⟩ := hreads.ordered
    obtain ⟨hlowerOther, hupperOther⟩ := hreadsOther.ordered
    have hlayers : ofLayers [lower, upper] = ofLayers [lowerOther, upperOther] :=
      ofLayers_sameButUnknown hlower hlowerOther hupper hupperOther hbelow habove
    calc loadFiles tree start global project = .ofExcept (ofLayers [lower, upper]) := hreads.loadFiles
      _ = .ofExcept (ofLayers [lowerOther, upperOther]) := by rw [hlayers]
      _ = loadFiles treeOther startOther globalOther projectOther := hreadsOther.loadFiles.symm

/-! Two layers, and the same with entries that mean nothing: one that is a table below and a number above, one that is
a table in both layers, and one that comes before the only field of its section. -/

def knownLower : Table := [("heartbeat", .table [("interval_secs", .integer 5)])]

def knownUpper : Table := [
  ("heartbeat", .table [("message", .text "up")]),
  ("log", .table [("level", .text "debug")])]

def strangeLower : Table := [
  ("alpha", .table [("x", .integer 1)]),
  ("heartbeat", .table [("interval_secs", .integer 5), ("label", .table [("x", .integer 1)])])]

def strangeUpper : Table := [
  ("alpha", .integer 2),
  ("heartbeat", .table [("label", .table [("y", .array [])]), ("message", .text "up")]),
  ("log", .table [("console", .boolean true), ("level", .text "debug")])]

theorem alpha_ne_name : ∀ layout ∈ layouts, layout.name ≠ "alpha" :=
  forall_layouts.2 ⟨by decide, by decide, by decide⟩

theorem strangeLower_unknown : SameButUnknown knownLower strangeLower := by
  have hkey : ¬ heartbeatLayout.IsKey "label" := by simp [Layout.IsKey, heartbeatLayout]
  have hlabel := @sameButUnknown_putIn knownLower heartbeatLayout (by decide) _ rfl "label" hkey
    (.table [("x", .integer 1)])
  exact hlabel.trans (@sameButUnknown_put _ "alpha" alpha_ne_name (.table [("x", .integer 1)]))

theorem strangeUpper_unknown : SameButUnknown knownUpper strangeUpper := by
  have hkey : ¬ logLayout.IsKey "console" := by simp [Layout.IsKey, logLayout]
  have hother : ¬ heartbeatLayout.IsKey "label" := by simp [Layout.IsKey, heartbeatLayout]
  have hconsole := @sameButUnknown_putIn knownUpper logLayout (by decide) _ rfl "console" hkey (.boolean true)
  have hlabel := hconsole.trans
    (@sameButUnknown_putIn _ heartbeatLayout (by decide) _ rfl "label" hother (.table [("y", .array [])]))
  exact hlabel.trans (@sameButUnknown_put _ "alpha" alpha_ne_name (.integer 2))

theorem known_ordered : OrderedTable knownLower ∧ OrderedTable knownUpper :=
  ⟨⟨by unfold Keyed.Ascending; decide, by simp [knownLower, Keyed.Ascending]⟩,
    ⟨by unfold Keyed.Ascending; decide, by simp [knownUpper, Keyed.Ascending]⟩⟩

theorem strange_ordered : OrderedTable strangeLower ∧ OrderedTable strangeUpper :=
  ⟨⟨by unfold Keyed.Ascending; decide, by simp [strangeLower, Keyed.Ascending, -String.lt_iff_ltb]⟩,
    ⟨by unfold Keyed.Ascending; decide, by simp [strangeUpper, Keyed.Ascending, -String.lt_iff_ltb]⟩⟩

/-- the sample's layers load alike, and so do two sites of which one has an operator's file with an unknown entry: both
find the same fault in the project's -/
theorem strange_keys_inert :
    (SameButUnknown knownLower strangeLower ∧ SameButUnknown knownUpper strangeUpper ∧
      ofLayers [some strangeLower, some strangeUpper] =
        .ok { heartbeat := { intervalSecs := 5, message := "up" }, log := { level := .debug } }) ∧
    (ReadsLayers (treeWithBoth (Text.encode "x = 1") (Text.encode "log = 7")) ["work"] (some "operator.toml")
        projectPath (some [("x", .integer 1)]) (some [("log", .integer 7)]) ∧
      loadFiles (treeWithBoth (Text.encode "x = 1") (Text.encode "log = 7")) ["work"] (some "operator.toml")
        projectPath =
      .failed (.misshapen { flaw := .wrongKind (.integer 7) (.record "LogConfig"), path := ["log"] })) := by
  obtain ⟨htables, hfiles⟩ := unknown_keys_inert
  obtain ⟨hlower, hupper⟩ := known_ordered
  obtain ⟨hlowerOther, hupperOther⟩ := strange_ordered
  have hlayers := htables _ _ _ _ hlower hlowerOther hupper hupperOther strangeLower_unknown strangeUpper_unknown
  have hloads : ofLayers [some knownLower, some knownUpper] =
      .ok { heartbeat := { intervalSecs := 5, message := "up" }, log := { level := .debug } } := rfl
  have hx : readTable "x = 1" = some [("x", .integer 1)] := by cbv
  have hlog : readTable "log = 7" = some [("log", .integer 7)] := by cbv
  have hproject : readLayer (treeWithBoth (Text.encode "x = 1") (Text.encode "log = 7")) ["work"] projectPath =
      .done (some [("log", .integer 7)]) := readLayer_of_file (resolve_projectPath_file rfl rfl rfl rfl) rfl hlog
  have hboth : ReadsLayers (treeWithBoth (Text.encode "x = 1") (Text.encode "log = 7")) ["work"]
      (some "operator.toml") projectPath (some [("x", .integer 1)]) (some [("log", .integer 7)]) :=
    ⟨readLayer_of_file (treeWithBoth_operator _ _) rfl hx, hproject⟩
  have halone : ReadsLayers (treeWithBoth (Text.encode "x = 1") (Text.encode "log = 7")) ["work"] none projectPath none
      (some [("log", .integer 7)]) := ⟨rfl, hproject⟩
  have hsame := hfiles _ _ _ _ _ _ _ _ _ _ _ _ halone hboth
    (sameButUnknown_put (forall_layouts.2 ⟨by decide, by decide, by decide⟩) (.integer 1)) fun _ _ => .same _
  refine ⟨⟨strangeLower_unknown, strangeUpper_unknown, hlayers.symm.trans hloads⟩, hboth, ?_⟩
  rw [← hsame, halone.loadFiles]
  rfl

end BlockProbe.Settings
