/-
A tree of files.

The tree lists what is at each location, the root itself being always a directory, and says who is at work on it. `set`
changes one location and nothing else.
-/
import BlockProbe.Files.Caller

namespace BlockProbe.Files

/-- locations and what is there, and the process that works on it -/
structure Tree where
  entries : List (Location × Node)
  caller : Caller := {}

namespace Tree

def find? (location : Location) : List (Location × Node) → Option Node
  | [] => none
  | (place, node) :: rest => if place = location then some node else find? location rest

/-- put a node at a location, in place if it is listed -/
def putNode (location : Location) (node : Node) : List (Location × Node) → List (Location × Node)
  | [] => [(location, node)]
  | (place, old) :: rest =>
    if place = location then (place, node) :: rest else (place, old) :: putNode location node rest

def empty : Tree := { entries := [] }

def get? (tree : Tree) (location : Location) : Option Node :=
  if location = [] then some .directory else find? location tree.entries

/-- the tree with another node at a location -/
def set (tree : Tree) (location : Location) (node : Node) : Tree :=
  { tree with entries := putNode location node tree.entries }

/-- make the directories along `names` below `base` that are missing -/
def makeDirectories (base : Location) : List String → Tree → Tree
  | [], tree => tree
  | name :: names, tree =>
    let here := base ++ [name]
    let tree := if (tree.get? here).isSome then tree else tree.set here .directory
    makeDirectories here names tree

/-- put a node somewhere below `base`, with the directories that lead there -/
def plant (tree : Tree) (base : Location) (names : List String) (node : Node) : Tree :=
  (makeDirectories base names.dropLast tree).set (base ++ names) node

end Tree

end BlockProbe.Files
