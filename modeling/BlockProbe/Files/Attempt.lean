/-
Attempts that may succeed, fail, or not come back.

Opening a named pipe waits for somebody at its other end, so reading and writing files has a third outcome besides a
result and a failure. `Attempt` is that outcome. A call is given as the list of its answers: an interrupted call is
made again, and a call that has no answer left waits.
-/
import BlockProbe.Files.Fault

namespace BlockProbe.Files

/-- the outcome of something that may fail or hang -/
inductive Attempt (ε α : Type) where
  | done (value : α)
  | failed (error : ε)
  | waits
deriving DecidableEq, Repr

namespace Attempt

variable {ε ε' α β : Type}

def bind (attempt : Attempt ε α) (next : α → Attempt ε β) : Attempt ε β :=
  match attempt with
  | .done value => next value
  | .failed error => .failed error
  | .waits => .waits

instance : Monad (Attempt ε) where
  pure := .done
  bind := bind

def mapError (change : ε → ε') : Attempt ε α → Attempt ε' α
  | .done value => .done value
  | .failed error => .failed (change error)
  | .waits => .waits

def ofExcept : Except ε α → Attempt ε α
  | .ok value => .done value
  | .error error => .failed error

/-- the answers of a call that is answered once, or never -/
def answers : Attempt ε α → List (Except ε α)
  | .done value => [.ok value]
  | .failed error => [.error error]
  | .waits => []

end Attempt

/-- is the fault an interruption, after which a call is made again? -/
def Fault.isInterruption : Fault → Bool
  | .os code => code == 4
  | .ofKind kind => kind == .interrupted
  | _ => false

/-- the outcome of a call, made again while it is interrupted -/
def retried {α : Type} : List (Except Fault α) → Attempt Fault α
  | [] => .waits
  | .ok value :: _ => .done value
  | .error fault :: rest => if fault.isInterruption then retried rest else .failed fault

end BlockProbe.Files
