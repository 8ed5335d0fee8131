/-
Writing and reading the files of a tree.

Opening for writing creates a missing file or empties the one that is there; the bytes then written replace its whole
content. A new file gets the requested permission bits less those the process masks; an existing one keeps its own,
except that emptying or writing a file may take its set-id bits away. Nothing but the one file a path leads to ever
changes.

The process needs permission for all of that: to look up the names on the way, to create a file in its directory, and to
open a file that is there. Permission is asked for when a file is opened, never afterwards.
-/
import BlockProbe.Files.Attempt
import BlockProbe.Files.Resolve
import BlockProbe.Text.Utf8

namespace BlockProbe.Files

namespace Tree

/-- open a path for writing: the tree with the file created or emptied, and where it is -/
def openForWriting (tree : Tree) (start : Location) (path : String) (mode : UInt32) :
    Attempt Fault (Tree × Location) :=
  match resolve tree .create start path with
  | .error fault => .failed fault
  | .ok (.free location) =>
    if tree.caller.adds location.dropLast
    then .done (tree.set location (.file (tree.caller.createdMode location mode) []), location)
    else .failed .accessDenied
  | .ok (.existing _ .directory) => .failed .isDirectory
  | .ok (.existing _ (.link _)) => .failed .linkLoop
  | .ok (.existing location node) =>
    if !tree.caller.mayOpen .write location node then .failed .accessDenied
    else
      match node with
      | .file mode _ => .done (tree.set location (.file (tree.caller.modeAfterChange location mode) []), location)
      | .device _ => .done (tree, location)
      | _ => .waits

/-- the tree after bytes were written to an opened file -/
def fill (tree : Tree) (location : Location) (bytes : List UInt8) : Tree :=
  match tree.get? location with
  | some (.file mode _) =>
    tree.set location (.file (if bytes.isEmpty then mode else tree.caller.modeAfterChange location mode) bytes)
  | _ => tree

/-- the tree after an attempt to write `bytes` to a path -/
def afterWriting (tree : Tree) (start : Location) (path : String) (mode : UInt32) (bytes : List UInt8) : Tree :=
  match tree.openForWriting start path mode with
  | .done (opened, location) => opened.fill location bytes
  | _ => tree

/-- open a path for reading: what it leads to -/
def openForReading (tree : Tree) (start : Location) (path : String) : Attempt Fault Node :=
  match resolve tree .use start path with
  | .error fault => .failed fault
  | .ok (.free _) => .failed .noEntry
  | .ok (.existing location node) =>
    if !tree.caller.mayOpen .read location node then .failed .accessDenied
    else
      match node with
      | .pipe => .waits
      | node => .done node

end Tree

/-- the answers to writing `count` bytes to what was opened -/
def Node.writes (count : Nat) : Node → List (Except Fault Nat)
  | .device .full => [.error .noSpace]
  | _ => [.ok count]

/-- the answers to flushing what was opened -/
def Node.syncs : Node → List (Except Fault Unit)
  | .device _ => [.error .invalid]
  | _ => [.ok ()]

/-- the answers to reading at most `count` bytes of what was opened, until the end -/
def Node.reads (count : Nat) : Node → List (Except Fault (List UInt8))
  | .file _ content => [.ok (content.take count), .ok []]
  | .directory => [.error .isDirectory]
  | .device .null => [.ok []]
  | .device _ => [.ok (List.replicate count 0)]
  | .pipe => []
  | .link _ => [.error .linkLoop]

/-- the whole text of what a path leads to; a source without end is never read to its end -/
def Tree.readText (tree : Tree) (start : Location) (path : String) : Attempt Fault String := do
  match ← tree.openForReading start path with
  | .file _ content => .ofExcept ((Text.decode? content).elim (.error .notUtf8) .ok)
  | .device .null => .done ""
  | .directory => .failed .isDirectory
  | _ => .waits

end BlockProbe.Files
