/-
Where a path leads.

A path is walked component by component from the root or from a starting directory. Empty components and `.` stay
where they are, `..` goes up, a symbolic link is replaced by its target, and everything but the last component must be
a directory; a trailing slash makes the last one a directory too. At most forty links are followed. The process must be
allowed to look names up in every directory on the way.

- `Purpose.inspect` looks at a last component that is a link instead of following it.
- `Purpose.use` follows it.
- `Purpose.create` follows it too, and refuses directories and trailing slashes, since a file is to be written there.

`resolve` ends at an existing node, or at a free name in an existing directory, or with the fault the walk met first.
-/
import BlockProbe.Files.Fault
import BlockProbe.Files.Tree
import BlockProbe.Text.Split

namespace BlockProbe.Files

/-- what a path is resolved for -/
inductive Purpose where
  | inspect
  | use
  | create
deriving DecidableEq, Repr

/-- where a path leads: to a node, or to a free name -/
inductive Place where
  | existing (location : Location) (node : Node)
  | free (location : Location)
deriving DecidableEq, Repr

def components (path : String) : List String := Text.split '/' path

def isAbsolute (path : String) : Bool := path.toList.head? == some '/'

/-- the longest name a directory can hold, in bytes -/
def nameLimit : Nat := 255

/-- the longest path that can be resolved, in bytes, with the NUL that ends it -/
def pathLimit : Nat := 4096

/-- how many links are followed -/
def linkLimit : Nat := 40

/-- walk from a directory along components; `follow` goes on from a link's directory with the link's target and the
components after it -/
def walk (tree : Tree) (purpose : Purpose) (follow : Location → String → List String → Except Fault Place) :
    Location → List String → Except Fault Place
  | here, [] => if purpose = .create then .error .isDirectory else .ok (.existing here .directory)
  | here, name :: rest =>
    if name = "" then walk tree purpose follow here rest
    else if !tree.caller.searches here then .error .accessDenied
    else if name = "." then walk tree purpose follow here rest
    else if name = ".." then walk tree purpose follow here.dropLast rest
    else
      let isLast := rest.all (· == "")
      let needsDirectory := !rest.isEmpty
      let next := here ++ [name]
      if purpose = .create ∧ isLast ∧ needsDirectory then .error .isDirectory
      else if name.utf8ByteSize > nameLimit then .error .nameTooLong
      else
        match tree.get? next with
        | none => if needsDirectory then .error .noEntry else .ok (.free next)
        | some .directory => walk tree purpose follow next rest
        | some (.link target) =>
          if purpose = .inspect ∧ !needsDirectory then .ok (.existing next (.link target))
          else follow here target rest
        | some node => if needsDirectory then .error .notDirectory else .ok (.existing next node)

/-- walk along components, following at most `links` links -/
def walkFollowing (tree : Tree) (purpose : Purpose) : Nat → Location → List String → Except Fault Place
  | 0 => walk tree purpose fun _ _ _ => .error .linkLoop
  | links + 1 => walk tree purpose fun here target rest =>
    walkFollowing tree purpose links (if isAbsolute target then [] else here) (components target ++ rest)

/-- where a path leads from a directory -/
def resolve (tree : Tree) (purpose : Purpose) (start : Location) (path : String) : Except Fault Place :=
  if path.toList.contains '\x00' then .error .nulInPath
  else if path = "" then .error .noEntry
  else if path.utf8ByteSize ≥ pathLimit then .error .nameTooLong
  else walkFollowing tree purpose linkLimit (if isAbsolute path then [] else start) (components path)

/-- does the path lead to something, links followed? -/
def Tree.hasPath (tree : Tree) (start : Location) (path : String) : Bool :=
  match resolve tree .use start path with
  | .ok (.existing _ _) => true
  | _ => false

/-- what a path names, a link itself not followed -/
def Tree.inspect (tree : Tree) (start : Location) (path : String) : Option Node :=
  match resolve tree .inspect start path with
  | .ok (.existing _ node) => some node
  | _ => none

end BlockProbe.Files
