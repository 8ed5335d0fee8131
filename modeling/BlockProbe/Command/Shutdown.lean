/-
Termination signals while a run is under way.

Three parties take turns. The listener waits for a signal, announces it, logs it, publishes it on a channel and is gone.
A worker reads the settings and later makes the round trip, its bytes reaching the target bit by bit. The main flow goes
through its stages and, wherever it waits, looks at the channel as well as at the worker: when both are ready it may
take either. It makes a call of its own for the signal in each of these places and gives the call up when the worker, or
the time for the next heartbeat, comes first.

`step` makes one move of one party, a move that is not possible changing nothing, so any list of moves is an
interleaving and `steps` is the state it leads to. A worker that the main flow no longer waits for goes on.
-/
import BlockProbe.Command.Channel
import BlockProbe.Command.Run

namespace BlockProbe.Command.Shutdown

open BlockProbe.Files (Attempt Location Node Tree retried)
open BlockProbe.Log (Filter Record)
open BlockProbe.Probe (ReadBack Sink payload)

inductive Listener where
  | waiting
  | woken (signal : Signal)
  | announced (signal : Signal)
  | logged (signal : Signal)
  | sent (signal : Signal)
  /-- the sending side of the channel is gone with it -/
  | gone (signal : Signal)
deriving DecidableEq, Repr

inductive Line where
  | exiting
  | usage
  | informed (text : String)
  | writing (path : String)
  | read (read : ReadBack)
  | heartbeat (message : String)
deriving DecidableEq, Repr

inductive Worker where
  | resting
  | reading
  | hasSettings (loaded : Except Settings.LoadError Settings)
  | starting (plan : Plan)
  /-- the target is open, so many bytes of the payload are written -/
  | writing (plan : Plan) (location : Location) (written : Nat)
  /-- the payload is written -/
  | written (plan : Plan)
  | finished (outcome : Except Failure ReadBack)

inductive Flow where
  | parsing (arguments : List String)
  /-- waits for the settings -/
  | loading (request : Request)
  | starting (request : Request) (loaded : Except Settings.LoadError Settings)
  /-- is about to wait for the round trip, which is not yet begun -/
  | entering (plan : Plan)
  /-- waits for the round trip -/
  | probing (plan : Plan)
  | judging (plan : Plan) (read : ReadBack)
  /-- waits for the next heartbeat -/
  | idle (plan : Plan)
  /-- left the stage because of the signal -/
  | left (stage : Stage) (signal : Signal)
  | ended (outcome : Outcome)

/-- the stage in which the main flow waits, for the signal as well -/
def Flow.stage? : Flow → Option Stage
  | .loading _ => some .settings
  | .entering _ => some .probing
  | .probing _ => some .probing
  | .idle _ => some .idle
  | _ => none

/-- is the main flow over? the receiving side of the channel is gone with it -/
def Flow.isOver : Flow → Bool
  | .left _ _ => true
  | .ended _ => true
  | _ => false

/-- everything at one moment -/
structure State where
  /-- the signals delivered so far -/
  delivered : List Signal := []
  listener : Listener := .waiting
  channel : Channel Signal := {}
  receiver : Receiver := {}
  worker : Worker := .resting
  flow : Flow
  /-- standard output -/
  output : List Line := []
  /-- the texts on standard error besides the log -/
  complaints : List String := []
  /-- which records are shown; none before the log is set up -/
  filter : Filter := []
  /-- the records shown -/
  log : List Record := []
  tree : Tree

/-- the moves of the three parties, and the delivery of a signal -/
inductive Move where
  | deliver (signal : Signal)
  /-- the listener goes on; of several signals delivered it may take any -/
  | listen (signal : Signal)
  /-- the worker goes on; `count` is how many bytes a write takes -/
  | work (count : Nat)
  /-- the main flow goes on with what its work gave it -/
  | advance
  /-- the main flow looks for the signal -/
  | look
deriving DecidableEq, Repr

/-- log records, as far as they are shown -/
def note (state : State) (records : List Record) : State :=
  { state with log := state.log ++ state.filter.select records }

/-! ## The listener -/

/-- the record of a signal that nobody waits for any more -/
def unobservedRecord : Record :=
  { level := .debug, component := .signal, origin := .shutdown, message := "No observer left for termination request"
    fields := [] }

/-- publish a signal, unless nobody is left to receive it -/
def send (state : State) (signal : Signal) : State :=
  if state.flow.isOver then note { state with listener := .sent signal } [unobservedRecord]
  else { state with listener := .sent signal, channel := state.channel.publish signal }

/-- the listener's next move -/
def listen (state : State) (signal : Signal) : State :=
  match state.listener with
  | .waiting => if signal ∈ state.delivered then { state with listener := .woken signal } else state
  | .woken signal => { state with listener := .announced signal, output := state.output ++ [.exiting] }
  | .announced signal => note { state with listener := .logged signal } [requestedRecord signal]
  | .logged signal => send state signal
  | .sent signal => { state with listener := .gone signal, channel := state.channel.close }
  | .gone _ => state

/-! ## The worker -/

/-- how an opened node takes the payload -/
def sinkAt (node : Node) : Sink :=
  { opens := [.ok ()], writes := node.writes payload.length, syncs := node.syncs }

/-- what opening the target comes to -/
def openTarget (site : Site) (state : State) (plan : Plan) : State :=
  let opens := state.tree.openForWriting site.directory plan.path plan.options.mode
  match Probe.failing plan.path .write (retried opens.answers) with
  | .waits => state
  | .failed error => { state with worker := .finished (.error (.probe error)) }
  | .done (opened, location) => { state with worker := .writing plan location 0, tree := opened }

/-- the last of the payload is written, and flushed if the plan says so -/
def complete (state : State) (plan : Plan) (location : Location) : State :=
  let node := (state.tree.get? location).getD .directory
  let filled := { state with tree := state.tree.fill location payload }
  match Probe.writePayload plan.path (sinkAt node) payload plan.options with
  | .waits => filled
  | .failed error => { filled with worker := .finished (.error (.probe error)) }
  | .done () => note { filled with worker := .written plan } [writtenRecord plan]

/-- what reading the target comes to -/
def readBack (site : Site) (state : State) (plan : Plan) : State :=
  match Probe.readFrom state.tree site.directory plan.path payload.length with
  | .waits => state
  | .failed error => { state with worker := .finished (.error (.probe error)) }
  | .done read => note { state with worker := .finished (.ok read) } [readRecord read]

/-- the worker's next move -/
def work (site : Site) (state : State) (count : Nat) : State :=
  match state.worker with
  | .resting => state
  | .reading =>
    match Settings.load state.tree site.directory site.home site.environment with
    | .waits => state
    | .failed error => { state with worker := .hasSettings (.error error) }
    | .done settings => { state with worker := .hasSettings (.ok settings) }
  | .hasSettings _ => state
  | .starting plan => openTarget site state plan
  | .writing plan location written =>
    if written + count < payload.length then
      { state with
        worker := .writing plan location (written + count)
        tree := state.tree.fill location (payload.take (written + count)) }
    else complete state plan location
  | .written plan => readBack site state plan
  | .finished _ => state

/-! ## The main flow -/

def print (state : State) (line : Line) : State := { state with output := state.output ++ [line] }

def fail (state : State) (failure : Failure) : State :=
  let ended := { state with flow := .ended (.failed failure) }
  match failure with
  | .usage => print ended .usage
  | _ => note { ended with complaints := state.complaints ++ ["Error: " ++ failure.message] }
      (failureRecord failure).toList

/-- print a heartbeat and wait for the next, with another call for the signal -/
def beat (state : State) (plan : Plan) : State :=
  print { state with flow := .idle plan, receiver := state.receiver.calling } (.heartbeat plan.heartbeat.message)

def accept (state : State) (arguments : List String) : State :=
  match parse arguments with
  | .error .help => print { state with flow := .ended .informed } (.informed helpText)
  | .error .version => print { state with flow := .ended .informed } (.informed versionText)
  | .error (.refused refusal) =>
    { state with flow := .ended .refused, complaints := state.complaints ++ [refusal.complaint] }
  | .ok request =>
    { state with flow := .loading request, worker := .reading, receiver := state.receiver.calling }

/-- make a plan -/
def prepare (state : State) (request : Request) (loaded : Except Settings.LoadError Settings) : State :=
  match plan request loaded with
  | .error failure => fail state failure
  | .ok plan =>
    note { state with flow := .entering plan, receiver := state.receiver.calling } [startingRecord plan]

def conclude (state : State) (plan : Plan) (read : ReadBack) : State :=
  let (records, verdict) := judge plan read
  let judged := note state records
  match verdict with
  | .error failure => fail judged failure
  | .ok () => if plan.once then { judged with flow := .ended .finished } else beat judged plan

/-- the main flow goes on with what its work gave it -/
def advance (site : Site) (state : State) : State :=
  match state.flow, state.worker with
  | .parsing arguments, _ => accept state arguments
  | .loading request, .hasSettings loaded => { state with
      flow := .starting request loaded
      worker := .resting
      filter := Filter.inForce (site.environment "RUST_LOG") (logLevel request loaded) }
  | .starting request loaded, _ => prepare state request loaded
  | .entering plan, _ => print { state with flow := .probing plan, worker := .starting plan } (.writing plan.path)
  | .probing plan, .finished (.ok read) =>
    print { state with flow := .judging plan read, worker := .resting } (.read read)
  | .probing _, .finished (.error failure) => fail { state with worker := .resting } failure
  | .judging plan read, _ => conclude state plan read
  | .idle plan, _ => beat state plan
  | _, _ => state

/-- the main flow looks for the signal, where it waits -/
def look (state : State) : State :=
  match state.flow.stage? with
  | none => state
  | some stage =>
    match state.channel.look state.receiver with
    | (receiver, .ready signal) =>
      note { state with receiver, flow := .left stage signal } (leavingRecord signal stage).toList
    | (receiver, .again) => { state with receiver }
    | (receiver, .pending) => { state with receiver }

/-! ## Interleavings -/

def step (site : Site) (state : State) : Move → State
  | .deliver signal => { state with delivered := state.delivered ++ [signal] }
  | .listen signal => listen state signal
  | .work count => work site state count
  | .advance => advance site state
  | .look => look state

/-- the state when the signal handlers have just been installed -/
def start (site : Site) (arguments : List String) : State :=
  { flow := .parsing arguments, tree := site.tree }

/-- any number of moves in any order -/
def steps (site : Site) (arguments : List String) (moves : List Move) : State :=
  moves.foldl (step site) (start site arguments)

/-- the exit status, once the main flow is done -/
def State.exitStatus? (state : State) : Option UInt8 :=
  match state.flow with
  | .left _ _ => some 0
  | .ended outcome => outcome.exitStatus?
  | _ => none

/-- the lines of the main flow: all but the listener's -/
def State.said (state : State) : List Line := state.output.filter (· ≠ .exiting)

def Line.text : Line → String
  | .exiting => exitingLine
  | .usage => usageLine ++ "\n"
  | .informed words => words
  | .writing path => "Writing to file " ++ path ++ "\n"
  | .read back => readLine back
  | .heartbeat message => message ++ "\n"

def printed (lines : List Line) : String := String.join (lines.map Line.text)

end BlockProbe.Command.Shutdown
