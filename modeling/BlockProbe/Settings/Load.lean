/-
Loading the settings of a run.

The project's file is laid over the operator's own, the environment over both, and the result is checked. A file that
does not exist is no layer at all. Stages are taken in order and the first that fails decides the error: read and parse
the operator's file, then the project's, decode what they merged into, the overrides, the check.
-/
import BlockProbe.Files.Access
import BlockProbe.Settings.Decode
import BlockProbe.Settings.Overrides
import BlockProbe.Toml.Overlay
import BlockProbe.Toml.Read

namespace BlockProbe.Settings

open BlockProbe.Files (Attempt Location Tree)
open BlockProbe.Toml (Table)

def projectPath : String := ".nvprobe/config.toml"

def globalPath (home : String) : String :=
  if home.toList.getLast? = some '/' then home ++ projectPath else home ++ "/" ++ projectPath

/-- the table a configuration text spells -/
def parse (text : String) : Except LoadError Table :=
  match Toml.readTable text with
  | some table => .ok table
  | none => .error .malformed

/-- one file's table, nothing when there is no such file -/
def readLayer (tree : Tree) (start : Location) (path : String) : Attempt LoadError (Option Table) :=
  if tree.hasPath start path then do
    let text ← (tree.readText start path).mapError .unreadable
    let table ← .ofExcept (parse text)
    return some table
  else return none

/-- settings from the tables of the files there are, the lowest layer first -/
def ofLayers (layers : List (Option Table)) : Except LoadError Settings :=
  (decode ((layers.filterMap id).foldl Toml.overlay [])).mapError .misshapen

def loadFiles (tree : Tree) (start : Location) (global : Option String) (project : String) :
    Attempt LoadError Settings := do
  let lower ← match global with
    | some path => readLayer tree start path
    | none => pure none
  let upper ← readLayer tree start project
  .ofExcept (ofLayers [lower, upper])

/-- settings from files and environment, checked -/
def finish (environment : Environment) (settings : Settings) : Except LoadError Settings :=
  match applyOverrides environment settings with
  | (_, .error reason) => .error (.invalid reason)
  | (settings, .ok ()) =>
    match settings.check with
    | .error reason => .error (.invalid (.unusable reason))
    | .ok () => .ok settings

def load (tree : Tree) (start : Location) (home : Option String) (environment : Environment) :
    Attempt LoadError Settings := do
  let settings ← loadFiles tree start (home.map globalPath) projectPath
  .ofExcept (finish environment settings)

end BlockProbe.Settings
