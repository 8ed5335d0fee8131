/-
How a run fails, and with which exit status.

Each kind of failure has an exit status of its own, so a caller can tell a missing path, a target that cannot be used,
a target that returns too little or something else, and bad settings apart.
-/
import BlockProbe.Probe.Basic
import BlockProbe.Settings.Invalid

namespace BlockProbe.Command

open BlockProbe.Files (Fault)

inductive Failure where
  /-- no path was given -/
  | usage
  /-- the target failed -/
  | probe (error : Probe.Error)
  /-- the settings were refused -/
  | settings (error : Settings.LoadError)
  /-- the signal handlers could not be installed -/
  | signals (fault : Fault)
  /-- the program could not be set up -/
  | runtime (fault : Fault)
  /-- the loading of the settings or the round trip broke off without a result, for a reason that the scheduler words -/
  | join (reason : String)

namespace Failure

def usageStatus : UInt8 := 1
def ioStatus : UInt8 := 2
def shortReadStatus : UInt8 := 3
def mismatchStatus : UInt8 := 4
def settingsStatus : UInt8 := 5
def internalStatus : UInt8 := 70

def exitStatus : Failure → UInt8
  | .usage => usageStatus
  | .probe error =>
    match error.failure.kind with
    | .io => ioStatus
    | .shortRead => shortReadStatus
    | .mismatch => mismatchStatus
  | .settings _ => settingsStatus
  | .signals _ => internalStatus
  | .runtime _ => internalStatus
  | .join _ => internalStatus

def message : Failure → String
  | .usage => "no file path given"
  | .probe error => error.message
  | .settings error => error.message
  | .signals fault => "failed to install signal handlers: " ++ fault.message
  | .runtime fault => "failed to start runtime: " ++ fault.message
  | .join reason => "probe task failed: " ++ reason

end Failure

end BlockProbe.Command
