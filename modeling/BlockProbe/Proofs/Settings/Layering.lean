/-
Layers of configuration files, and the same file twice.

The laws of laying tables over each other carry over to files: a file that is there in both places counts once, in
either place, and a file that is not there counts as none given. An operator who works in the home directory has the
same file in both places.

- `loadFiles_of_read`: loading is a function of what is read in the two places.
- `layering_laws`: the laws, of tables and of files.
-/
import BlockProbe.Proofs.Settings.RoundTrip
import BlockProbe.Proofs.Toml.Algebra

namespace BlockProbe.Settings

open BlockProbe.Files
open BlockProbe.Toml

variable {tree : Tree} {start : Location}

/-- settings from what is read in the operator's place, if there is one, and in the project's -/
def loadRead (lower upper : Attempt LoadError (Option Table)) : Attempt LoadError Settings := do
  .ofExcept (ofLayers [← lower, ← upper])

theorem loadFiles_of_read (tree : Tree) (start : Location) (global : Option String) (project : String) :
    loadFiles tree start global project =
      loadRead ((global.map (readLayer tree start)).getD (.done none)) (readLayer tree start project) := by
  cases global <;> rfl

/-- the same table twice, or once in either place -/
theorem ofLayers_twice {layer : Option Table} (h : OrderedTable (tableOf layer)) :
    ofLayers [layer, layer] = ofLayers [none, layer] ∧ ofLayers [layer, none] = ofLayers [none, layer] := by
  have htwice : merged layer layer = tableOf layer := by rw [merged, nil_overlay h, overlay_self h]
  have hupper : merged none layer = tableOf layer := nil_overlay h
  have hlower : merged layer none = tableOf layer := nil_overlay h
  simp only [ofLayers_eq, htwice, hupper, hlower, and_self]

/-- what is read in both places counts once -/
theorem loadRead_twice {layer : Attempt LoadError (Option Table)}
    (h : ∀ read, layer = .done read → OrderedTable (tableOf read)) :
    loadRead layer layer = loadRead (.done none) layer ∧ loadRead layer (.done none) = loadRead (.done none) layer := by
  cases layer with
  | done read =>
    obtain ⟨htwice, honce⟩ := ofLayers_twice (h read rfl)
    exact ⟨congrArg Attempt.ofExcept htwice, congrArg Attempt.ofExcept honce⟩
  | failed error => exact ⟨rfl, rfl⟩
  | waits => exact ⟨rfl, rfl⟩

/-- a path that does not exist is as good as none -/
theorem loadFiles_of_missing {missing : String} (h : tree.hasPath start missing = false) (project : String) :
    loadFiles tree start (some missing) project = loadFiles tree start none project := by
  rw [loadFiles_of_read, loadFiles_of_read, Option.map_some, Option.getD_some, readLayer_of_missing h]
  rfl

/-- two paths at which the same is read count as one, given in either place -/
theorem loadFiles_twice {global project missing : String}
    (hsame : readLayer tree start global = readLayer tree start project)
    (hmissing : tree.hasPath start missing = false) :
    loadFiles tree start (some global) project = loadFiles tree start none project ∧
      loadFiles tree start (some global) missing = loadFiles tree start none project := by
  have hordered : ∀ read, readLayer tree start project = .done read → OrderedTable (tableOf read) :=
    fun _ hread => readLayer_ordered hread
  simp only [loadFiles_of_read, Option.map_some, Option.getD_some, Option.map_none, Option.getD_none, hsame,
    readLayer_of_missing hmissing]
  exact loadRead_twice hordered

/-- **The laws of layering.** Of tables in key order: nothing and the same again change nothing; the order does not
matter where two tables meet in tables only, and the grouping of three only where something that is no table stands
between two tables. Of files: the same twice is the same once, in either place, and one that does not exist is none. -/
theorem layering_laws :
    (∀ a, OrderedTable a → overlay a [] = a ∧ overlay [] a = a ∧ overlay a a = a) ∧
    (∀ a b, OrderedTable a → OrderedTable b →
      overlay (overlay a b) b = overlay a b ∧ (MeetInTables a b → overlay a b = overlay b a)) ∧
    (∀ a b c, OrderedTable a → OrderedTable b → OrderedTable c → ¬ LeafBetween a b c →
      overlay (overlay a b) c = overlay a (overlay b c)) ∧
    (∀ (tree : Tree) (start : Location) (global project missing : String),
      readLayer tree start global = readLayer tree start project → tree.hasPath start missing = false →
      loadFiles tree start (some global) project = loadFiles tree start none project ∧
        loadFiles tree start (some global) missing = loadFiles tree start none project) ∧
    (∀ (tree : Tree) (start : Location) (missing project : String), tree.hasPath start missing = false →
      loadFiles tree start (some missing) project = loadFiles tree start none project) := by
  refine ⟨?_, ?_, ?_, ?_, ?_⟩
  · intro a ha
    exact ⟨overlay_nil a, nil_overlay ha, overlay_self ha⟩
  · intro a b ha hb
    exact ⟨overlay_again ha hb, overlay_comm ha hb⟩
  · intro a b c ha hb hc hbetween
    exact overlay_assoc ha hb hc hbetween
  · intro tree start global project missing hsame hmissing
    exact loadFiles_twice hsame hmissing
  · intro tree start missing project hmissing
    exact loadFiles_of_missing hmissing project

/-! Tables that meet everywhere, in tables only, or with a leaf apart; and a home directory that is worked in. -/

def infoOnly : Table := [("level", .table [("info", .integer 7)]), ("shut", .integer 9)]

def traceOnly : Table := [("level", .table [("trace", .integer 8)]), ("whole", .boolean true)]

theorem nestedLower_ordered : OrderedTable nestedLower :=
  ⟨by unfold Keyed.Ascending; decide, by simp [nestedLower, Keyed.Ascending, -String.lt_iff_ltb]⟩

theorem infoOnly_ordered : OrderedTable infoOnly :=
  ⟨by unfold Keyed.Ascending; decide, by simp [infoOnly, Keyed.Ascending, -String.lt_iff_ltb]⟩

theorem traceOnly_ordered : OrderedTable traceOnly :=
  ⟨by unfold Keyed.Ascending; decide, by simp [traceOnly, Keyed.Ascending, -String.lt_iff_ltb]⟩

theorem infoOnly_meets_traceOnly : MeetInTables infoOnly traceOnly := by
  refine Value.meetInTables_table.2 fun key value other hvalue hother => ?_
  obtain ⟨rfl, rfl⟩ : key = "level" ∧ value = .table [("info", .integer 7)] := by
    rcases List.mem_cons.1 (Keyed.mem_of_find? hvalue) with h | h
    · cases h; exact ⟨rfl, rfl⟩
    · cases List.mem_singleton.1 h; cases hother
  cases hother
  refine Value.meetInTables_table.2 fun key value other hvalue hother => ?_
  cases List.mem_singleton.1 (Keyed.mem_of_find? hvalue)
  cases hother

theorem not_leafBetween_nested : ¬ LeafBetween nestedLower infoOnly nestedUpper := by
  intro h
  obtain ⟨key, low, mid, high, hlow, hmid, hhigh, h⟩ := Value.leafBetween_table.1 h
  rcases List.mem_cons.1 (Keyed.mem_of_find? hmid) with hlevel | hshut
  · cases hlevel
    cases hlow
    cases hhigh
    obtain ⟨key, low, mid, high, hlow, hmid, -⟩ := Value.leafBetween_table.1 h
    cases List.mem_singleton.1 (Keyed.mem_of_find? hmid)
    cases hlow
  · cases List.mem_singleton.1 hshut
    cases hhigh
    obtain ⟨path, first, leaf, last, -, -, hlast, htable, -⟩ := h
    cases path with
    | nil => cases hlast; exact htable
    | cons key path => cases hlast

/-- a working directory that is the home directory, with one configuration file -/
def homeTree : Tree := treeHolding (Text.encode (String.ofList (printed edgeSettings)))

/-- the operator's path leads to the project's file -/
theorem homeTree_file : resolve homeTree .use ["work"] (globalPath "/work") =
    .ok (.existing ["work", ".nvprobe", "config.toml"]
      (.file 0o644 (Text.encode (String.ofList (printed edgeSettings))))) := by
  have hnul : '\x00' ∉ (globalPath "/work").toList := by decide
  have hempty : globalPath "/work" ≠ "" := by decide
  have hcomponents : components (globalPath "/work") = ["", "work", ".nvprobe", "config.toml"] := by decide
  have hsize : (globalPath "/work").utf8ByteSize = 26 := by decide
  have hnames : "work".utf8ByteSize = 4 ∧ ".nvprobe".utf8ByteSize = 8 ∧ "config.toml".utf8ByteSize = 11 := by decide
  have habsolute : isAbsolute (globalPath "/work") = true := by decide
  unfold resolve
  simp [hnul, hempty, hcomponents, hsize, habsolute, hnames, pathLimit, linkLimit, walkFollowing, walk, homeTree,
    treeHolding, Tree.get?, Tree.find?, nameLimit]

theorem nested_layering_laws :
    (overlay nestedLower nestedLower = nestedLower ∧
      overlay (overlay nestedLower nestedUpper) nestedUpper = overlay nestedLower nestedUpper ∧
      overlay infoOnly traceOnly = overlay traceOnly infoOnly ∧
      overlay (overlay nestedLower infoOnly) nestedUpper = overlay nestedLower (overlay infoOnly nestedUpper)) ∧
    readLayer homeTree ["work"] projectPath = .done (some (spelledOut edgeSettings)) ∧
    loadFiles homeTree ["work"] (some (globalPath "/work")) projectPath =
      loadFiles homeTree ["work"] none projectPath ∧
    loadFiles homeTree ["work"] (some (globalPath "/work")) "absent" = loadFiles homeTree ["work"] none projectPath ∧
    loadFiles homeTree ["work"] (some "absent") projectPath = loadFiles homeTree ["work"] none projectPath := by
  obtain ⟨hone, htwo, hthree, htwice, hmissing⟩ := layering_laws
  have hread := readTable_printed (show edgeSettings.heartbeat.intervalSecs.toNat < 2 ^ 63 by decide)
  have hglobal := readLayer_of_file homeTree_file rfl hread
  have hproject : readLayer homeTree ["work"] projectPath = .done (some (spelledOut edgeSettings)) :=
    readLayer_of_file (resolve_projectPath_file rfl rfl rfl rfl) rfl hread
  have habsent : homeTree.hasPath ["work"] "absent" = false := rfl
  obtain ⟨honce, hlower⟩ := htwice _ _ _ _ _ (hglobal.trans hproject.symm) habsent
  exact ⟨⟨(hone _ nestedLower_ordered).2.2, (htwo _ _ nestedLower_ordered nestedUpper_ordered).1,
    (htwo _ _ infoOnly_ordered traceOnly_ordered).2 infoOnly_meets_traceOnly,
    hthree _ _ _ nestedLower_ordered infoOnly_ordered nestedUpper_ordered not_leafBetween_nested⟩,
    hproject, honce, hlower, hmissing _ _ _ _ habsent⟩

end BlockProbe.Settings
