/-
The layers that settings are loaded from.

A site has two configuration files; `HasLayers` names the tables they hold, and `ReadsLayers` those of any two files.
`load_of_layers` takes loading apart into what the files hold and what is made of it, so that nothing about loaded
settings needs to look at a file again.
-/
import BlockProbe.Proofs.Files.Access
import BlockProbe.Proofs.Results
import BlockProbe.Proofs.Settings.Overrides
import BlockProbe.Proofs.Text.Utf8
import BlockProbe.Proofs.Toml.Overlay
import BlockProbe.Settings.Load
import Mathlib

namespace BlockProbe.Settings

open BlockProbe.Files
open BlockProbe.Toml

/-- a file's table, a missing file counting as an empty one -/
def tableOf (layer : Option Table) : Table := layer.getD []

/-- the tables of the operator's and the project's configuration file, none for a file that does not exist -/
structure HasLayers (tree : Tree) (start : Location) (home : Option String) (lower upper : Option Table) : Prop where
  lower : match home with
    | some home => readLayer tree start (globalPath home) = .done lower
    | none => lower = none
  upper : readLayer tree start projectPath = .done upper

/-- the table read from a file is in key order -/
theorem readLayer_ordered {tree : Tree} {start : Location} {path : String} {layer : Option Table}
    (h : readLayer tree start path = .done layer) : OrderedTable (tableOf layer) := by
  unfold readLayer at h
  split_ifs at h with hpath
  · obtain ⟨text, _, h⟩ := Attempt.bind_eq_done.1 h
    obtain ⟨table, hparse, h⟩ := Attempt.bind_eq_done.1 h
    cases h
    have hok := Attempt.ofExcept_eq_done.1 hparse
    unfold parse at hok
    cases hread : readTable text with
    | none => rw [hread] at hok; cases hok
    | some read => rw [hread] at hok; cases hok; exact readTable_ordered hread
  · cases h; exact OrderedTable.nil

/-- what is read in the operator's place, if there is one, and in the project's; none where there is no file -/
structure ReadsLayers (tree : Tree) (start : Location) (global : Option String) (project : String)
    (lower upper : Option Table) : Prop where
  lower : (global.map (readLayer tree start)).getD (.done none) = .done lower
  upper : readLayer tree start project = .done upper

theorem ReadsLayers.ordered {tree : Tree} {start : Location} {global : Option String} {project : String}
    {lower upper : Option Table} (h : ReadsLayers tree start global project lower upper) :
    OrderedTable (tableOf lower) ∧ OrderedTable (tableOf upper) := by
  refine ⟨?_, readLayer_ordered h.upper⟩
  have hlower := h.lower
  cases global with
  | none => cases hlower; exact OrderedTable.nil
  | some path => exact readLayer_ordered hlower

/-- a site's layers are read in its two places -/
theorem HasLayers.reads {tree : Tree} {start : Location} {home : Option String} {lower upper : Option Table}
    (h : HasLayers tree start home lower upper) :
    ReadsLayers tree start (home.map globalPath) projectPath lower upper := by
  refine ⟨?_, h.upper⟩
  have hlower := h.lower
  cases home with
  | none => simp only at hlower; subst hlower; rfl
  | some home => exact hlower

theorem HasLayers.ordered {tree : Tree} {start : Location} {home : Option String} {lower upper : Option Table}
    (h : HasLayers tree start home lower upper) : OrderedTable (tableOf lower) ∧ OrderedTable (tableOf upper) :=
  h.reads.ordered

/-! ## Files that can be read -/

/-- the project's file is looked for in the directory `.nvprobe` below the working directory -/
theorem resolve_projectPath (tree : Tree) (start : Location) :
    resolve tree .use start projectPath =
      walkFollowing tree .use linkLimit start [".nvprobe", "config.toml"] := by
  have hnul : projectPath.toList.contains '\x00' = false := by decide
  have hempty : projectPath ≠ "" := by decide
  have hsize : ¬ projectPath.utf8ByteSize ≥ pathLimit := by
    have hbytes : projectPath.utf8ByteSize = 20 := by cbv
    rw [hbytes, pathLimit]
    omega
  have hrelative : isAbsolute projectPath = false := by cbv
  have hcomponents : components projectPath = [".nvprobe", "config.toml"] := by cbv
  unfold resolve
  rw [hnul, hrelative, hcomponents, if_neg (by simp), if_neg hempty, if_neg hsize]
  rfl

theorem resolve_projectPath_file {tree : Tree} {start : Location} {mode : UInt32} {content : List UInt8}
    (hstart : tree.caller.searches start = true) (hbelow : tree.caller.searches (start ++ [".nvprobe"]) = true)
    (hdirectory : tree.get? (start ++ [".nvprobe"]) = some .directory)
    (hfile : tree.get? (start ++ [".nvprobe", "config.toml"]) = some (.file mode content)) :
    resolve tree .use start projectPath =
      .ok (.existing (start ++ [".nvprobe", "config.toml"]) (.file mode content)) := by
  have hfirst : ".nvprobe".utf8ByteSize = 8 := by cbv
  have hsecond : "config.toml".utf8ByteSize = 11 := by cbv
  rw [resolve_projectPath]
  simp [linkLimit, walkFollowing, walk, hstart, hbelow, hdirectory, hfile, hfirst, hsecond, nameLimit]

theorem hasPath_projectPath_missing {tree : Tree} {start : Location} (h : tree.get? (start ++ [".nvprobe"]) = none) :
    tree.hasPath start projectPath = false := by
  have hfirst : ".nvprobe".utf8ByteSize = 8 := by cbv
  have hmissing : ∃ fault, resolve tree .use start projectPath = .error fault := by
    rw [resolve_projectPath]
    cases hsearch : tree.caller.searches start <;>
      simp [linkLimit, walkFollowing, walk, h, hsearch, hfirst, nameLimit]
  obtain ⟨fault, hmissing⟩ := hmissing
  rw [Tree.hasPath, hmissing]

/-- a file that holds an encoded text gives the text, if the process may read it -/
theorem readText_of_file {tree : Tree} {start location : Location} {path : String} {mode : UInt32} {text : String}
    (hfile : resolve tree .use start path = .ok (.existing location (.file mode (Text.encode text))))
    (hopen : tree.caller.mayOpen .read location (.file mode (Text.encode text)) = true) :
    tree.readText start path = .done text := by
  unfold Tree.readText
  rw [Tree.openForReading_of_file hfile, if_pos hopen]
  simp only [Attempt.done_bind, Text.decode?_encode]
  rfl

/-- a file that holds an encoded configuration text gives the text's table -/
theorem readLayer_of_file {tree : Tree} {start location : Location} {path : String} {mode : UInt32} {text : String}
    (hfile : resolve tree .use start path = .ok (.existing location (.file mode (Text.encode text))))
    (hopen : tree.caller.mayOpen .read location (.file mode (Text.encode text)) = true) {table : Table}
    (htable : readTable text = some table) : readLayer tree start path = .done (some table) := by
  have hpath : tree.hasPath start path = true := by rw [Tree.hasPath, hfile]
  have hparse : parse text = .ok table := by rw [parse, htable]
  unfold readLayer
  rw [if_pos hpath, readText_of_file hfile hopen]
  simp only [Attempt.mapError_done, Attempt.done_bind, hparse, Attempt.ofExcept_ok]
  rfl

/-- a file that the process may not read is no layer, but a failure -/
theorem readLayer_of_closed {tree : Tree} {start location : Location} {path : String} {mode : UInt32}
    {content : List UInt8} (hfile : resolve tree .use start path = .ok (.existing location (.file mode content)))
    (hopen : tree.caller.mayOpen .read location (.file mode content) = false) :
    readLayer tree start path = .failed (.unreadable .accessDenied) := by
  have hpath : tree.hasPath start path = true := by rw [Tree.hasPath, hfile]
  have hclosed : tree.openForReading start path = .failed .accessDenied := by
    rw [Tree.openForReading_of_file hfile, if_neg (by simp [hopen])]
  unfold readLayer Tree.readText
  rw [if_pos hpath, hclosed]
  rfl

/-- a file that does not exist is no layer -/
theorem readLayer_of_missing {tree : Tree} {start : Location} {path : String} (h : tree.hasPath start path = false) :
    readLayer tree start path = .done none := by
  unfold readLayer
  rw [h]
  rfl

/-! ## Loading -/

/-- the table that the two files were merged into -/
def merged (lower upper : Option Table) : Table := overlay (overlay [] (tableOf lower)) (tableOf upper)

theorem merged_ordered {lower upper : Option Table} (hlower : OrderedTable (tableOf lower))
    (hupper : OrderedTable (tableOf upper)) : OrderedTable (merged lower upper) :=
  overlay_ordered (overlay_ordered OrderedTable.nil _ hlower.values) _ hupper.values

theorem ofLayers_eq (lower upper : Option Table) :
    ofLayers [lower, upper] = (decode (merged lower upper)).mapError .misshapen := by
  cases lower <;> cases upper <;> rfl

theorem ReadsLayers.loadFiles {tree : Tree} {start : Location} {global : Option String} {project : String}
    {lower upper : Option Table} (h : ReadsLayers tree start global project lower upper) :
    loadFiles tree start global project = .ofExcept (ofLayers [lower, upper]) := by
  have hlower := h.lower
  unfold Settings.loadFiles
  cases global with
  | none =>
    cases hlower
    simp only [h.upper, Attempt.done_bind]
    rfl
  | some path =>
    simp only [Option.map_some, Option.getD_some] at hlower
    simp only [hlower, h.upper, Attempt.done_bind]

theorem loadFiles_of_layers {tree : Tree} {start : Location} {home : Option String} {lower upper : Option Table}
    (h : HasLayers tree start home lower upper) :
    loadFiles tree start (home.map globalPath) projectPath = .ofExcept (ofLayers [lower, upper]) := h.reads.loadFiles

/-- **Loading is a function of the layers.** -/
theorem load_of_layers {tree : Tree} {start : Location} {home : Option String} {lower upper : Option Table}
    (h : HasLayers tree start home lower upper) (environment : Environment) :
    load tree start home environment = .ofExcept (ofLayers [lower, upper] >>= finish environment) := by
  unfold load
  rw [loadFiles_of_layers h]
  exact Attempt.ofExcept_bind _ _

/-- without files and variables the settings are the default ones -/
theorem load_of_nothing {tree : Tree} {start : Location} (h : tree.get? (start ++ [".nvprobe"]) = none) :
    load tree start none (fun _ => none) = .done Settings.default := by
  have hlayers : HasLayers tree start none none none :=
    ⟨rfl, readLayer_of_missing (hasPath_projectPath_missing h)⟩
  have hfinish : (ofLayers [none, none] >>= finish fun _ => none) = .ok Settings.default := by cbv
  rw [load_of_layers hlayers, hfinish]
  rfl

/-- **Loading looks at the variables of the overrides only.** -/
theorem load_congr {environment other : Environment}
    (h : ∀ override ∈ overrides, environment override.name = other override.name) (tree : Tree) (start : Location)
    (home : Option String) : load tree start home environment = load tree start home other := by
  have hfinish : finish environment = finish other := by
    funext settings
    unfold finish applyOverrides
    rw [applyEach_congr h]
  unfold load
  rw [hfinish]

theorem finish_eq_ok {environment : Environment} {before after : Settings} :
    finish environment before = .ok after ↔
      applyOverrides environment before = (after, .ok ()) ∧ after.check = .ok () := by
  unfold finish
  obtain ⟨taken, outcome⟩ := applyOverrides environment before
  cases outcome with
  | error reason => simp
  | ok _ =>
    cases hcheck : taken.check with
    | error reason =>
      simp only [hcheck, reduceCtorEq, Prod.mk.injEq, and_true, false_iff, not_and]
      rintro rfl
      simp [hcheck]
    | ok _ =>
      simp only [hcheck, Except.ok.injEq, Prod.mk.injEq, and_true]
      refine ⟨?_, And.left⟩
      rintro rfl
      exact ⟨rfl, hcheck⟩

end BlockProbe.Settings
