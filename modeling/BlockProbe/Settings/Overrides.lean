/-
Settings from environment variables.

Four variables are looked up in a fixed order and each, when set, replaces one setting. The first invalid value stops
the rest; what was replaced before it stays replaced.
-/
import BlockProbe.Decimal.Natural
import BlockProbe.Settings.Invalid
import BlockProbe.Text.Blank

namespace BlockProbe.Settings

abbrev Environment := String → Option String

/-- a truth value as an operator types it, in any case and with white space around it -/
def parseBoolean (name text : String) : Except Invalid Bool :=
  match (Text.trimmed text).toLower with
  | "1" | "true" | "yes" | "on" => .ok true
  | "0" | "false" | "no" | "off" => .ok false
  | other => .error (.notBoolean name other)

/-- an environment variable and the setting it replaces -/
structure Override where
  name : String
  apply : String → Settings → Except Invalid Settings

/-- seconds between two heartbeats, with white space around them -/
def intervalOverride : Override where
  name := "NVPROBE_HEARTBEAT_SECS"
  apply text settings :=
    match Decimal.readUnsigned (Text.trimmed text) with
    | .ok secs => .ok { settings with heartbeat.intervalSecs := secs }
    | .error _ => .error (.notNumber "NVPROBE_HEARTBEAT_SECS" text)

def verifyOverride : Override where
  name := "NVPROBE_VERIFY"
  apply text settings :=
    (parseBoolean "NVPROBE_VERIFY" text).map fun verify => { settings with probe.verify := verify }

def syncOverride : Override where
  name := "NVPROBE_SYNC"
  apply text settings :=
    (parseBoolean "NVPROBE_SYNC" text).map fun sync => { settings with probe.sync := sync }

def levelOverride : Override where
  name := "NVPROBE_LOG"
  apply text settings :=
    match Level.parse text with
    | .ok level => .ok { settings with log.level := level }
    | .error message => .error (.level message)

/-- all overrides, in the order they are taken -/
def overrides : List Override := [intervalOverride, verifyOverride, syncOverride, levelOverride]

/-- take overrides one after the other: the settings then, and what stopped it -/
def applyEach (environment : Environment) : List Override → Settings → Settings × Except Invalid Unit
  | [], settings => (settings, .ok ())
  | override :: rest, settings =>
    match environment override.name with
    | none => applyEach environment rest settings
    | some text =>
      match override.apply text settings with
      | .ok settings => applyEach environment rest settings
      | .error reason => (settings, .error reason)

def applyOverrides (environment : Environment) (settings : Settings) : Settings × Except Invalid Unit :=
  applyEach environment overrides settings

end BlockProbe.Settings
