/-
The settings of a probe run: what they are, their defaults, and when they make sense.
-/
import BlockProbe.Settings.Level

namespace BlockProbe

/-- permission bits for a newly created target: rw-r--r-- -/
def defaultFileMode : UInt32 := 0o644

structure ProbeSettings where
  /-- permission bits for a newly created target -/
  fileMode : UInt32 := defaultFileMode
  /-- fail when the read-back differs from the payload -/
  verify : Bool := true
  /-- flush the target to its medium after writing -/
  sync : Bool := false
deriving DecidableEq, Repr

structure HeartbeatSettings where
  /-- seconds between two heartbeats -/
  intervalSecs : UInt64 := 10
  /-- the line a heartbeat prints -/
  message : String := "- Sleeping"
deriving DecidableEq, Repr

structure LogSettings where
  level : Level := .warn
deriving DecidableEq, Repr

structure Settings where
  probe : ProbeSettings := {}
  heartbeat : HeartbeatSettings := {}
  log : LogSettings := {}
deriving DecidableEq, Repr

namespace Settings

/-- the settings of a run that configures nothing -/
def default : Settings := {}

inductive Unusable where
  | zeroInterval
  | fileMode (mode : UInt32)
deriving DecidableEq, Repr

def octal (n : Nat) : String := String.ofList (Nat.toDigits 8 n)

def Unusable.message : Unusable → String
  | .zeroInterval => "heartbeat.interval_secs must be at least 1"
  | .fileMode mode => "probe.file_mode out of range: " ++ octal mode.toNat

/-- the largest file mode: the twelve permission bits -/
def greatestFileMode : UInt32 := 0o7777

/-- the interval is not zero and the file mode has permission bits only; the interval is looked at first -/
def check (settings : Settings) : Except Unusable Unit :=
  if settings.heartbeat.intervalSecs = 0 then .error .zeroInterval
  else if settings.probe.fileMode > greatestFileMode then .error (.fileMode settings.probe.fileMode)
  else .ok ()

end Settings

end BlockProbe
