/-
The payload, and what comes back.

A probe writes a fixed payload to a target and reads the same number of bytes back. `ReadBack` is what came back,
together with how much was asked for; `verify` compares it with what was written and reports the first difference.
-/
import BlockProbe.Files.Fault
import BlockProbe.Settings.Basic
import BlockProbe.Text.Utf8

namespace BlockProbe.Probe

open BlockProbe.Files (Fault)

/-- the bytes written to the target on every probe -/
def payload : List UInt8 := Text.encode "Excelero NVMesh"

structure Options where
  /-- permission bits used when the target is created -/
  mode : UInt32 := defaultFileMode
  /-- flush the target after writing -/
  sync : Bool := false
deriving DecidableEq, Repr

/-- the bytes obtained from the target -/
structure ReadBack where
  requested : Nat
  data : List UInt8
deriving DecidableEq, Repr

namespace ReadBack

def isComplete (read : ReadBack) : Bool := read.data.length == read.requested

/-- are the bytes exactly the expected ones? -/
def holds (read : ReadBack) (expected : List UInt8) : Bool := read.data == expected

/-- the bytes as an operator sees them -/
def shown (read : ReadBack) : String := Text.lossy read.data

end ReadBack

/-- the calls on a target that can fail -/
inductive Call where
  | write
  | sync
  | opening
  | read
deriving DecidableEq, Repr

inductive Failure where
  /-- a call failed -/
  | call (call : Call) (fault : Fault)
  /-- another number of bytes came back than were written -/
  | shortRead (expected actual : Nat)
  /-- other bytes came back, from this offset on -/
  | mismatch (offset : Nat)
deriving DecidableEq, Repr

/-- a failure and the target it concerns -/
structure Error where
  path : String
  failure : Failure
deriving DecidableEq, Repr

/-- the coarse kinds of failure, which decide the exit status -/
inductive Kind where
  | io
  | shortRead
  | mismatch
deriving DecidableEq, Repr

def Failure.kind : Failure → Kind
  | .call _ _ => .io
  | .shortRead _ _ => .shortRead
  | .mismatch _ => .mismatch

def Error.message (error : Error) : String :=
  match error.failure with
  | .call .write fault => "failed to write " ++ error.path ++ ": " ++ fault.message
  | .call .sync fault => "failed to sync " ++ error.path ++ ": " ++ fault.message
  | .call .opening fault => "failed to open " ++ error.path ++ " for reading: " ++ fault.message
  | .call .read fault => "failed to read " ++ error.path ++ ": " ++ fault.message
  | .shortRead expected actual =>
    "short read from " ++ error.path ++ ": expected " ++ toString expected ++ " bytes, got " ++ toString actual
  | .mismatch offset =>
    "content read from " ++ error.path ++ " differs from payload at byte " ++ toString offset

/-- the first index at which two byte sequences differ, as far as both go -/
def firstDifference : List UInt8 → List UInt8 → Option Nat
  | a :: as, b :: bs => if a ≠ b then some 0 else (firstDifference as bs).map (· + 1)
  | _, _ => none

/-- check that exactly the expected bytes came back -/
def verify (path : String) (expected : List UInt8) (read : ReadBack) : Except Error Unit :=
  if read.data.length ≠ expected.length then
    .error { path, failure := .shortRead expected.length read.data.length }
  else
    match firstDifference read.data expected with
    | some offset => .error { path, failure := .mismatch offset }
    | none => .ok ()

end BlockProbe.Probe
