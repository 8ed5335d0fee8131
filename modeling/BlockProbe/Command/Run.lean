/-
A whole run: from the arguments, the environment and the files to everything that can be seen of it.

`run` gives the output, the complaints, the log records with the filter that selects among them, the files afterwards
and how the run ends; `runOn` does so for a target that need not be among the files. A run that does not end by itself
waits for its settings, for its target, or between two heartbeats; `interrupt` is what a termination signal makes of it
then.
-/
import BlockProbe.Command.Complaint
import BlockProbe.Command.Help
import BlockProbe.Command.Plan
import BlockProbe.Log.Filter
import BlockProbe.Probe.OnTree
import BlockProbe.Settings.Load

namespace BlockProbe.Command

open BlockProbe.Files (Attempt Location Tree)
open BlockProbe.Log (Filter Record)
open BlockProbe.Probe (Target payload)

/-- where a run takes place -/
structure Site where
  tree : Tree
  /-- the working directory -/
  directory : Location
  /-- the operator's home directory -/
  home : Option String
  environment : Settings.Environment

/-- where a run waits -/
inductive Stage where
  /-- for its settings to be read -/
  | settings
  /-- for its target -/
  | probing
  /-- between two heartbeats -/
  | idle
deriving DecidableEq, Repr

inductive Outcome where
  | refused
  | informed
  | finished
  | failed (failure : Failure)
  | waiting (stage : Stage)

def refusedStatus : UInt8 := 2

def Outcome.exitStatus? : Outcome → Option UInt8
  | .refused => some refusedStatus
  | .informed => some 0
  | .finished => some 0
  | .failed failure => some failure.exitStatus
  | .waiting _ => none

/-- everything that can be seen of a run -/
structure Transcript where
  /-- standard output -/
  output : String := ""
  /-- the texts on standard error besides the log; of refused arguments, the first line and the hint -/
  complaints : List String := []
  /-- all log records, shown or not -/
  records : List Record := []
  /-- which records are shown; none before the log is set up -/
  filter : Filter := []
  /-- the files afterwards -/
  tree : Tree
  outcome : Outcome

def Transcript.log (transcript : Transcript) : List Record := transcript.filter.select transcript.records

def Transcript.fail (transcript : Transcript) (failure : Failure) : Transcript :=
  match failure with
  | .usage => { transcript with output := transcript.output ++ usageLine ++ "\n", outcome := .failed failure }
  | _ => { transcript with
      records := transcript.records ++ (failureRecord failure).toList
      complaints := transcript.complaints ++ ["Error: " ++ failure.message]
      outcome := .failed failure }

/-- the end of a run whose arguments ask for nothing to be done -/
def stopped (tree : Tree) : Stop → Transcript
  | .help => { output := helpText, tree, outcome := .informed }
  | .version => { output := versionText, tree, outcome := .informed }
  | .refused refusal => { complaints := [refusal.complaint], tree, outcome := .refused }

/-- carry out a plan on a target that leaves the files as `tree` -/
def carryOut (plan : Plan) (target : Target) (filter : Filter) (tree : Tree) : Transcript :=
  let (tripRecords, attempt) := trip plan target
  let begun : Transcript := {
    output := writingLine plan
    records := startingRecord plan :: tripRecords
    filter, tree
    outcome := .waiting .probing }
  match attempt with
  | .waits => begun
  | .failed failure => begun.fail failure
  | .done read =>
    let (verdictRecords, verdict) := judge plan read
    let judged : Transcript := { begun with
      output := begun.output ++ readLine read
      records := begun.records ++ verdictRecords
      outcome := .finished }
    match verdict with
    | .error failure => judged.fail failure
    | .ok () =>
      if plan.once then judged
      else { judged with
        output := judged.output ++ plan.heartbeat.message ++ "\n"
        outcome := .waiting .idle }

/-- what a plan meets: the target it means, and the files once it is carried out -/
structure Device where
  target : Plan → Target
  after : Plan → Tree

/-- go on with a request once loading the settings has succeeded or failed -/
def proceed (site : Site) (device : Device) (request : Request) (loaded : Except Settings.LoadError Settings) :
    Transcript :=
  let filter := Filter.inForce (site.environment "RUST_LOG") (logLevel request loaded)
  match plan request loaded with
  | .error failure => Transcript.fail { filter, tree := site.tree, outcome := .finished } failure
  | .ok plan => carryOut plan (device.target plan) filter (device.after plan)

def runOn (site : Site) (device : Device) (arguments : List String) : Transcript :=
  match parse arguments with
  | .error stop => stopped site.tree stop
  | .ok request =>
    match Settings.load site.tree site.directory site.home site.environment with
    | .waits => { tree := site.tree, outcome := .waiting .settings }
    | .failed error => proceed site device request (.error error)
    | .done settings => proceed site device request (.ok settings)

/-- the files after a plan is carried out on the files themselves -/
def treeAfter (site : Site) (plan : Plan) : Tree :=
  site.tree.afterWriting site.directory plan.path plan.options.mode payload

/-- the target a plan means among the files -/
def targetAt (site : Site) (plan : Plan) : Target :=
  Probe.targetOf site.tree site.directory plan.path plan.options.mode payload

/-- the files as the device -/
def filesOf (site : Site) : Device := { target := targetAt site, after := treeAfter site }

def run (site : Site) (arguments : List String) : Transcript := runOn site (filesOf site) arguments

/-- the signals that end a run -/
inductive Signal where
  | interrupt
  | terminate
deriving DecidableEq, Repr

def Signal.name : Signal → String
  | .interrupt => "SIGINT"
  | .terminate => "SIGTERM"

def exitingLine : String := "\r- Exiting..\n"

def requestedRecord (signal : Signal) : Record :=
  { level := .info, component := .signal, origin := .shutdown, message := "Termination requested"
    fields := [("signal", .text signal.name)] }

/-- the record of a run leaving the stage it waited in; nothing is logged before the log is set up -/
def leavingRecord (signal : Signal) : Stage → Option Record
  | .settings => none
  | .probing => some {
      level := .info, component := .cli, origin := .program, message := "Probe interrupted"
      fields := [("signal", .text signal.name)] }
  | .idle => some {
      level := .info, component := .cli, origin := .program, message := "Idle loop stopped"
      fields := [("signal", .text signal.name)] }

/-- what a signal makes of a run that waits -/
def interrupt (signal : Signal) (transcript : Transcript) : Transcript :=
  match transcript.outcome with
  | .waiting stage => { transcript with
      output := transcript.output ++ exitingLine
      records := transcript.records ++ requestedRecord signal :: (leavingRecord signal stage).toList
      outcome := .finished }
  | _ => transcript

end BlockProbe.Command
