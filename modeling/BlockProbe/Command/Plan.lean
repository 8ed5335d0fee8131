/-
From a request and the settings to what a run will do, and from what came back to its verdict.

An option of the command line goes over the setting it names; flags only ever add to the settings. The settings are
checked again once the interval is replaced.
-/
import BlockProbe.Command.Arguments
import BlockProbe.Command.Failure
import BlockProbe.Log.Record
import BlockProbe.Probe.Target

namespace BlockProbe.Command

open BlockProbe.Files (Attempt)
open BlockProbe.Log (Record)
open BlockProbe.Probe (Options ReadBack Target payload)

structure Plan where
  path : String
  options : Options
  /-- does a read-back that differs fail the run? -/
  verify : Bool
  /-- does the run end after the round trip? -/
  once : Bool
  heartbeat : HeartbeatSettings
deriving DecidableEq, Repr

/-- the settings with the request's interval in place of theirs -/
def withInterval (settings : Settings) (interval : Option UInt64) : Settings :=
  match interval with
  | some secs => { settings with heartbeat.intervalSecs := secs }
  | none => settings

/-- what a run will do, or why it does nothing -/
def plan (request : Request) (loaded : Except Settings.LoadError Settings) : Except Failure Plan :=
  match request.path with
  | none => .error .usage
  | some path =>
    match loaded with
    | .error error => .error (.settings error)
    | .ok settings =>
      let settings := withInterval settings request.interval
      match settings.check with
      | .error reason => .error (.settings (.invalid (.unusable reason)))
      | .ok () => .ok {
          path
          options := { mode := settings.probe.fileMode, sync := request.sync || settings.probe.sync }
          verify := settings.probe.verify && !request.noVerify
          once := request.once
          heartbeat := settings.heartbeat }

/-- the level of the log unless a filter is asked for: the request's, else the settings', else the default -/
def logLevel (request : Request) (loaded : Except Settings.LoadError Settings) : Level :=
  match request.level, loaded with
  | some level, _ => level
  | none, .ok settings => settings.log.level
  | none, .error _ => .warn

def startingRecord (plan : Plan) : Record :=
  { level := .debug, component := .cli, origin := .program, message := "Starting probe"
    fields := [("verify", Log.boolean plan.verify), ("sync", Log.boolean plan.options.sync)] }

def writtenRecord (plan : Plan) : Record :=
  { level := .debug, component := .probe, origin := .io, message := "Payload written"
    fields := [("bytes", Log.number payload.length), ("sync", Log.boolean plan.options.sync)] }

def readRecord (read : ReadBack) : Record :=
  { level := .debug, component := .probe, origin := .io, message := "Read back"
    fields := [("requested", Log.number read.requested), ("actual", Log.number read.data.length)] }

def verifiedRecord (read : ReadBack) : Record :=
  { level := .info, component := .probe, origin := .program, message := "Read-back verified"
    fields := [("bytes", Log.number read.data.length)] }

/-- the record of a read-back that differs, where that is no failure -/
def differsRecord (read : ReadBack) : Record :=
  { level := .warn, component := .probe, origin := .program, message := "Read-back differs from payload"
    fields := [("requested", Log.number read.requested), ("actual", Log.number read.data.length)] }

/-- the record of a failure; a missing path is not logged -/
def failureRecord (failure : Failure) : Option Record :=
  let status := ("exit_code", Log.number failure.exitStatus.toNat)
  match failure with
  | .usage => none
  | .probe error => some {
      level := .error, component := .cli, origin := .program, message := "Probe failed"
      fields := [("path", .bare error.path), ("error", .bare error.message), status] }
  | other => some {
      level := .error, component := .cli, origin := .program, message := "Aborting"
      fields := [("error", .bare other.message), status] }

def writingLine (plan : Plan) : String := "Writing to file " ++ plan.path ++ "\n"

def readLine (read : ReadBack) : String :=
  "Read " ++ toString read.data.length ++ " bytes: \"" ++ read.shown ++ "\"\n"

/-- the round trip on a target, with the records on the way -/
def trip (plan : Plan) (target : Target) : List Record × Attempt Failure ReadBack :=
  match Probe.writePayload plan.path target.sink payload plan.options with
  | .failed error => ([], .failed (.probe error))
  | .waits => ([], .waits)
  | .done () =>
    match Probe.readBack plan.path target.source payload.length with
    | .failed error => ([writtenRecord plan], .failed (.probe error))
    | .waits => ([writtenRecord plan], .waits)
    | .done read => ([writtenRecord plan, readRecord read], .done read)

/-- the verdict on what came back -/
def judge (plan : Plan) (read : ReadBack) : List Record × Except Failure Unit :=
  if plan.verify then
    match Probe.verify plan.path payload read with
    | .ok () => ([verifiedRecord read], .ok ())
    | .error error => ([], .error (.probe error))
  else if read.holds payload then ([], .ok ())
  else ([differsRecord read], .ok ())

end BlockProbe.Command
