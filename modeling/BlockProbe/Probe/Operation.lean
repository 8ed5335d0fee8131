/-
Calls on the files of a tree, one after another.

An `Operation` is one call: writing, reading back, both in turn, or verifying what was read. `perform` gives its answer
and the tree after it, `performAll` the tree after any number of them, each made on the tree that the ones before left.
-/
import BlockProbe.Probe.OnTree

namespace BlockProbe.Probe

open BlockProbe.Files (Attempt Location Tree)

inductive Operation where
  | write (path : String) (bytes : List UInt8) (options : Options)
  | read (path : String) (count : Nat)
  | roundTrip (path : String) (bytes : List UInt8) (options : Options)
  | verify (path : String) (expected : List UInt8) (read : ReadBack)
deriving DecidableEq, Repr

inductive Answer where
  | wrote (attempt : Attempt Error Unit)
  | gave (attempt : Attempt Error ReadBack)
  | judged (verdict : Except Error Unit)

def Answer.succeeded : Answer → Bool
  | .wrote (.done _) => true
  | .gave (.done _) => true
  | .judged (.ok _) => true
  | _ => false

/-- make a call: its answer, and the tree after it -/
def perform (start : Location) (tree : Tree) : Operation → Answer × Tree
  | .write path bytes options =>
    let (attempt, after) := writeTo tree start path bytes options
    (.wrote attempt, after)
  | .read path count => (.gave (readFrom tree start path count), tree)
  | .roundTrip path bytes options =>
    let (attempt, after) := roundTripOn tree start path bytes options
    (.gave attempt, after)
  | .verify path expected read => (.judged (verify path expected read), tree)

/-- the tree after calls made one after another -/
def performAll (start : Location) (tree : Tree) (operations : List Operation) : Tree :=
  operations.foldl (fun tree operation => (perform start tree operation).2) tree

end BlockProbe.Probe
