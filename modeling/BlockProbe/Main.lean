/-
The program.

This is the thin layer that touches the world: it reads arguments, environment and files, makes the calls on the target
and prints. What is decided is decided by `Command`: the answers of the target are collected and handed over, and the
transcript that comes back is printed. Termination signals are listened for before anything touches the disk.
-/
import BlockProbe.Command.Run
import Std.Async.Signal
import Std.Async.Timer
import Std.Time

namespace BlockProbe.Program

open BlockProbe.Command (Plan Request Signal Stage Transcript)
open BlockProbe.Files (Fault)
open BlockProbe.Log (Filter Record)
open BlockProbe.Probe (Sink Source payload)

def errorNumber? : IO.Error → Option UInt32
  | .alreadyExists _ code _ | .otherError code _ | .resourceBusy code _ | .resourceVanished code _
  | .unsupportedOperation code _ | .hardwareFault code _ | .unsatisfiedConstraints code _
  | .illegalOperation code _ | .protocolError code _ | .timeExpired code _ | .interrupted _ code _
  | .noFileOrDirectory _ code _ | .invalidArgument _ code _ | .permissionDenied _ code _
  | .resourceExhausted _ code _ | .inappropriateType _ code _ | .noSuchThing _ code _ => some code
  | _ => none

def faultOf (error : IO.Error) : Fault :=
  match errorNumber? error with
  | some code => .os code.toNat
  | none => .described (toString error)

/-- the answer of a call -/
def answer {α : Type} (call : IO α) : BaseIO (Except Fault α) :=
  return (← call.toBaseIO).mapError faultOf

def isThere (path : String) : BaseIO Bool :=
  return (← (IO.FS.realPath path).toBaseIO) matches .ok _

def readLayer (path : String) : BaseIO (Except Settings.LoadError (Option Toml.Table)) := do
  if !(← isThere path) then return .ok none
  match ← answer (IO.FS.readBinFile path) with
  | .error fault => return .error (.unreadable fault)
  | .ok content =>
    match Text.decode? content.toList with
    | none => return .error (.unreadable .notUtf8)
    | some text => return (Settings.parse text).map some

def load (home : Option String) (environment : Settings.Environment) :
    BaseIO (Except Settings.LoadError Settings) := do
  let lower ← match home with
    | some home => readLayer (Settings.globalPath home)
    | none => pure (.ok none)
  match lower with
  | .error error => return .error error
  | .ok lower =>
    match ← readLayer Settings.projectPath with
    | .error error => return .error error
    | .ok upper => return Settings.ofLayers [lower, upper] >>= Settings.finish environment

/-- three permission bits -/
def rights (bits : UInt32) : IO.AccessRight :=
  { read := bits &&& 4 != 0, write := bits &&& 2 != 0, execution := bits &&& 1 != 0 }

/-- the permission bits that the process masks, as the system tells them -/
def mask : BaseIO UInt32 := do
  let lines ← (IO.FS.lines "/proc/self/status").toBaseIO
  let told := lines.toOption.bind fun lines => lines.toList.find? (·.startsWith "Umask:")
  let digits := (told.getD "0022").toList.filter Char.isDigit
  return digits.foldl (fun mask digit => mask * 8 + (digit.toNat - 48).toUInt32) 0

/-- the rights a new file gets -/
def fileRights (mask requested : UInt32) : IO.FileRight :=
  let mode := Files.Caller.masked { mask } requested
  { user := rights (mode >>> 6), group := rights (mode >>> 3), other := rights mode }

/-- write the payload: the answers of the write side. The library creates files with no mode of ours and flushes no
further than to the system, so a new file gets its rights afterwards, without set-id and sticky bits, and a flush to the
device is answered as done once the system has the bytes. -/
def writeTarget (plan : Plan) : BaseIO Sink := do
  let isNew := !(← isThere plan.path)
  match ← answer (IO.FS.Handle.mk plan.path .write) with
  | .error fault => return { opens := [.error fault], writes := [], syncs := [] }
  | .ok handle =>
    if isNew then discard (IO.setAccessRights plan.path (fileRights (← mask) plan.options.mode)).toBaseIO
    match ← answer (do handle.write (ByteArray.mk payload.toArray); handle.flush) with
    | .error fault => return { opens := [.ok ()], writes := [.error fault], syncs := [] }
    | .ok () => return { opens := [.ok ()], writes := [.ok payload.length], syncs := [.ok ()] }

/-- read as much as the payload: the answers of the read side -/
def readTarget (plan : Plan) : BaseIO Source := do
  match ← answer (IO.FS.Handle.mk plan.path .read) with
  | .error fault => return { opens := [.error fault], reads := [] }
  | .ok handle =>
    let mut reads := #[]
    let mut space := payload.length
    for _ in [0:payload.length] do
      if space != 0 then
        match ← answer (handle.read space.toUSize) with
        | .error fault =>
          reads := reads.push (.error fault)
          space := 0
        | .ok delivered =>
          reads := reads.push (.ok delivered.toList)
          space := if delivered.isEmpty then 0 else space - delivered.size
    return { opens := [.ok ()], reads := reads.toList }

/-- write the payload and read it back, nothing being read after a failed write -/
def makeTrip (plan : Plan) : BaseIO Probe.Target := do
  let sink ← writeTarget plan
  let isWritten := match Probe.writePayload plan.path sink payload plan.options with
    | .done () => true
    | _ => false
  let source ← if isWritten then readTarget plan else pure { opens := [], reads := [] }
  return { sink, source }

def timestamp : IO String := do
  let now ← Std.Time.Timestamp.now
  return (Std.Time.DateTime.ofTimestamp now Std.Time.TimeZone.ZoneRules.UTC).format
    "uuuu-MM-dd'T'HH:mm:ss.SSSSSS'Z'"

/-- print the records a filter shows -/
def printRecords (filter : Filter) (records : List Record) : IO Unit := do
  for record in filter.select records do
    let indent := String.ofList (List.replicate (5 - record.level.name.length) ' ')
    IO.eprintln ((← timestamp) ++ " " ++ indent ++ record.shown)

def say (text : String) : IO Unit := do
  let output ← IO.getStdout
  output.putStr text
  output.flush

/-- print a transcript, less the output and the records printed before -/
def printTranscript (transcript : Transcript) (saidBefore : Nat) (recordsBefore : Nat) : IO Unit := do
  say (String.ofList (transcript.output.toList.drop saidBefore))
  printRecords transcript.filter (transcript.records.drop recordsBefore)
  for complaint in transcript.complaints do
    IO.eprintln complaint

def statusOf (transcript : Transcript) : UInt32 := (transcript.outcome.exitStatus?.getD 0).toUInt32

/-- the result of a task, or the signal that came first -/
def orSignal {α : Type} (task : Task α) (signals : List (Task Signal)) : BaseIO (α ⊕ Signal) :=
  IO.waitAny (task.map .inl :: signals.map fun signal => signal.map .inr)

/-- take leave of a stage because of a signal -/
def leave (filter : Filter) (stage : Stage) (signal : Signal) : IO UInt32 := do
  say Command.exitingLine
  printRecords filter (Command.requestedRecord signal :: (Command.leavingRecord signal stage).toList)
  return 0

/-- the longest time a timer is set to, in milliseconds -/
def longestSleep : Nat := 0x8000000000000000

/-- a timer for the time between two heartbeats -/
def nextHeartbeat (plan : Plan) : IO (Task Unit) := do
  let time := min (plan.heartbeat.intervalSecs.toNat * 1000) longestSleep
  let timer ← (Std.Async.sleep (Std.Time.Millisecond.Offset.ofNat time)).toEIO
  return timer.run.map fun _ => ()

/-- print the heartbeat until a signal comes -/
partial def idle (plan : Plan) (filter : Filter) (signals : List (Task Signal)) : IO UInt32 := do
  match ← orSignal (← nextHeartbeat plan) signals with
  | .inr signal => leave filter .idle signal
  | .inl () =>
    say (plan.heartbeat.message ++ "\n")
    idle plan filter signals

def carryOut (plan : Plan) (filter : Filter) (signals : List (Task Signal)) : IO UInt32 := do
  let writing := Command.writingLine plan
  printRecords filter [Command.startingRecord plan]
  say writing
  match ← orSignal (← (makeTrip plan).asTask .dedicated) signals with
  | .inr signal => leave filter .probing signal
  | .inl target =>
    let transcript := Command.carryOut plan target filter .empty
    printTranscript transcript writing.length 1
    match transcript.outcome with
    | .waiting .idle => idle plan filter signals
    | _ => return statusOf transcript

/-- the variables a run looks at -/
def environment : BaseIO Settings.Environment := do
  let names := "RUST_LOG" :: Settings.overrides.map (·.name)
  let values ← names.mapM fun name => return (name, ← IO.getEnv name)
  return fun name => (values.lookup name).join

/-- a signal that is listened for -/
def listenFor (signal : Signal) (waiter : Std.Async.Signal.Waiter) : IO (Task Signal) := do
  return (← waiter.wait).run.map fun _ => signal

/-- the run of a command line -/
def proceed (arguments : List String) (signals : List (Task Signal)) : IO UInt32 := do
  match Command.parse arguments with
  | .error stop =>
    let transcript := Command.stopped .empty stop
    printTranscript transcript 0 0
    return statusOf transcript
  | .ok request =>
    let environment ← environment
    let loading := do load ((← IO.getEnv "HOME").filter fun home => !home.isEmpty) environment
    match ← orSignal (← loading.asTask .dedicated) signals with
    | .inr signal => leave [] .settings signal
    | .inl loaded =>
      let filter := Filter.inForce (environment "RUST_LOG") (Command.logLevel request loaded)
      match Command.plan request loaded with
      | .ok plan => carryOut plan filter signals
      | .error failure =>
        let transcript := Transcript.fail { filter, tree := .empty, outcome := .finished } failure
        printTranscript transcript 0 0
        return statusOf transcript

/-- the whole program, which listens for signals as long as it runs -/
def run (arguments : List String) : IO UInt32 := do
  let interrupts ← Std.Async.Signal.Waiter.mk .sigint true
  let terminations ← Std.Async.Signal.Waiter.mk .sigterm true
  let signals := [← listenFor .interrupt interrupts, ← listenFor .terminate terminations]
  let status ← proceed arguments signals
  interrupts.stop
  terminations.stop
  return status

end BlockProbe.Program

def main (arguments : List String) : IO UInt32 := BlockProbe.Program.run arguments
