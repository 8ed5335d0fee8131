/-
Writing to a target and reading back.

A target is given by its answers. A `Sink` answers the calls of the write side: opening, each write (how many bytes it
took), flushing. A `Source` answers those of the read side: opening and each read (the bytes it delivered, none at the
end). An interrupted call is made again, and a call without an answer waits. Whatever the target, the steps are the same
and the first that fails is the one reported; nothing is tried after it.
-/
import BlockProbe.Files.Attempt
import BlockProbe.Probe.Basic

namespace BlockProbe.Probe

open BlockProbe.Files (Attempt Fault retried)

structure Sink where
  opens : List (Except Fault Unit)
  writes : List (Except Fault Nat)
  syncs : List (Except Fault Unit)

structure Source where
  opens : List (Except Fault Unit)
  reads : List (Except Fault (List UInt8))

/-- a target: how it takes the payload and what it gives back afterwards -/
structure Target where
  sink : Sink
  source : Source

/-- write until `left` bytes are taken -/
def writeAll (left : Nat) : List (Except Fault Nat) → Attempt Fault Unit
  | [] => if left = 0 then .done () else .waits
  | answer :: rest =>
    if left = 0 then .done ()
    else
      match answer with
      | .ok taken => if taken = 0 then .failed .wroteNothing else writeAll (left - taken) rest
      | .error fault => if fault.isInterruption then writeAll left rest else .failed fault

/-- read until `space` bytes are there or the source is at its end; a delivery is cut to the space left -/
def collect (space : Nat) : List (Except Fault (List UInt8)) → Attempt Fault (List UInt8)
  | [] => if space = 0 then .done [] else .waits
  | answer :: rest =>
    if space = 0 then .done []
    else
      match answer with
      | .ok delivered =>
        if delivered.isEmpty then .done []
        else (collect (space - delivered.length) rest).bind fun more => .done (delivered.take space ++ more)
      | .error fault => if fault.isInterruption then collect space rest else .failed fault

/-- the failure of a call on the target at `path` -/
def failing {α : Type} (path : String) (call : Call) (attempt : Attempt Fault α) : Attempt Error α :=
  attempt.mapError fun fault => { path, failure := .call call fault }

/-- create or empty the target and write bytes to it -/
def writePayload (path : String) (sink : Sink) (bytes : List UInt8) (options : Options) : Attempt Error Unit := do
  failing path .write (retried sink.opens)
  failing path .write (writeAll bytes.length sink.writes)
  if options.sync then failing path .sync (retried sink.syncs)

/-- open the target and read at most `count` bytes; fewer are no failure -/
def readBack (path : String) (source : Source) (count : Nat) : Attempt Error ReadBack := do
  failing path .opening (retried source.opens)
  let data ← failing path .read (collect count source.reads)
  return { requested := count, data }

/-- write bytes and read as many back -/
def roundTrip (path : String) (target : Target) (bytes : List UInt8) (options : Options) :
    Attempt Error ReadBack := do
  writePayload path target.sink bytes options
  readBack path target.source bytes.length

end BlockProbe.Probe
