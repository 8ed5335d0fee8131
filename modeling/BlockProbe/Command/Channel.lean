/-
A channel that holds the latest value.

The sending side publishes a value in place of the one before, and it may go away. The receiving side knows how many
values were published when it looked last. A call waits until some value is there: it looks at the value first, then it
waits for a change and looks again, and when nobody is left to publish it looks a last time. A call that is given up
leaves what was seen behind; the next call starts over with the look at the value.
-/

namespace BlockProbe.Command

structure Channel (α : Type) where
  value : Option α := none
  /-- how many values were published -/
  version : Nat := 0
  /-- the sending side is gone -/
  closed : Bool := false
deriving DecidableEq, Repr

/-- where a call is that waits for a value -/
inductive Wait where
  /-- it has not looked at the value yet, or not since the last change -/
  | fresh
  /-- it has looked in vain and waits for a change -/
  | watching
  /-- nobody is left to change the value, it has to look a last time -/
  | last
  /-- nothing will ever arrive -/
  | stranded
deriving DecidableEq, Repr

/-- the receiving side -/
structure Receiver where
  /-- how many values had been published when the value was looked at last -/
  seen : Nat := 0
  wait : Wait := .fresh
deriving DecidableEq, Repr

/-- what a look comes to -/
inductive Look (α : Type) where
  /-- the call comes back with this value -/
  | ready (value : α)
  /-- the call goes on at once -/
  | again
  /-- the call waits to be woken -/
  | pending
deriving DecidableEq, Repr

namespace Channel

variable {α : Type}

def publish (channel : Channel α) (value : α) : Channel α :=
  { channel with value := some value, version := channel.version + 1 }

/-- the sending side goes away -/
def close (channel : Channel α) : Channel α := { channel with closed := true }

/-- one step of a call that waits for a value -/
def look (channel : Channel α) (receiver : Receiver) : Receiver × Look α :=
  match receiver.wait with
  | .fresh =>
    match channel.value with
    | some value => ({ seen := channel.version, wait := .fresh }, .ready value)
    | none => ({ seen := channel.version, wait := .watching }, .again)
  | .watching =>
    if receiver.seen ≠ channel.version then ({ seen := channel.version, wait := .fresh }, .again)
    else if channel.closed then ({ receiver with wait := .last }, .again)
    else (receiver, .pending)
  | .last =>
    if receiver.seen ≠ channel.version then
      match channel.value with
      | some value => ({ seen := channel.version, wait := .fresh }, .ready value)
      | none => ({ seen := channel.version, wait := .stranded }, .pending)
    else ({ receiver with wait := .stranded }, .pending)
  | .stranded => (receiver, .pending)

end Channel

/-- the receiving side at the start of another call -/
def Receiver.calling (receiver : Receiver) : Receiver := { receiver with wait := .fresh }

end BlockProbe.Command
