/-
Probing the files of a tree.

A tree answers the calls of a probe like any target, and it has a state: what a write leaves behind is what a read
finds. Each operation comes with the tree after it.
-/
import BlockProbe.Files.Access
import BlockProbe.Probe.Target

namespace BlockProbe.Probe

open BlockProbe.Files (Attempt Fault Location Node Tree)

/-- how a path in a tree takes `bytes` -/
def sinkOf (tree : Tree) (start : Location) (path : String) (mode : UInt32) (bytes : List UInt8) : Sink :=
  match tree.openForWriting start path mode with
  | .done (opened, location) =>
    let node := (opened.get? location).getD .directory
    { opens := [.ok ()], writes := node.writes bytes.length, syncs := node.syncs }
  | .failed fault => { opens := [.error fault], writes := [], syncs := [] }
  | .waits => { opens := [], writes := [], syncs := [] }

/-- what a path in a tree delivers when at most `count` bytes are read -/
def sourceOf (tree : Tree) (start : Location) (path : String) (count : Nat) : Source :=
  match tree.openForReading start path with
  | .done node => { opens := [.ok ()], reads := node.reads count }
  | .failed fault => { opens := [.error fault], reads := [] }
  | .waits => { opens := [], reads := [] }

/-- how a path in a tree takes `bytes` and gives them back -/
def targetOf (tree : Tree) (start : Location) (path : String) (mode : UInt32) (bytes : List UInt8) : Target where
  sink := sinkOf tree start path mode bytes
  source := sourceOf (tree.afterWriting start path mode bytes) start path bytes.length

def writeTo (tree : Tree) (start : Location) (path : String) (bytes : List UInt8) (options : Options) :
    Attempt Error Unit × Tree :=
  (writePayload path (sinkOf tree start path options.mode bytes) bytes options,
    tree.afterWriting start path options.mode bytes)

def readFrom (tree : Tree) (start : Location) (path : String) (count : Nat) : Attempt Error ReadBack :=
  readBack path (sourceOf tree start path count) count

/-- write bytes to a path of a tree and read them back -/
def roundTripOn (tree : Tree) (start : Location) (path : String) (bytes : List UInt8) (options : Options) :
    Attempt Error ReadBack × Tree :=
  (roundTrip path (targetOf tree start path options.mode bytes) bytes options,
    tree.afterWriting start path options.mode bytes)

end BlockProbe.Probe
