/-
The command line.

Arguments are read from left to right. An option takes its value from the same argument, after `=`, or from the next
one, unless that begins with `-` and is longer than `-`. `--` ends the options. What was read last stays pending until
the next argument is accepted, so an unknown argument is reported before anything wrong with the value in front of it.
Settling an option looks for its value, then for an earlier use, then at the value itself.

- `parse` returns the request, or that help or the version is wanted, or why the arguments are refused.
-/
import BlockProbe.Decimal.Natural
import BlockProbe.Settings.Level

namespace BlockProbe.Command

structure Request where
  path : Option String := none
  interval : Option UInt64 := none
  noVerify : Bool := false
  sync : Bool := false
  level : Option Level := none
  once : Bool := false
deriving DecidableEq, Repr

/-- the options that take a value -/
inductive Slot where
  | interval
  | level
deriving DecidableEq, Repr

/-- the options that take none -/
inductive Flag where
  | noVerify
  | sync
  | once
deriving DecidableEq, Repr

def Slot.name : Slot → String
  | .interval => "--interval"
  | .level => "--log-level"

/-- an option with the name of its value, as messages call it -/
def Slot.shown : Slot → String
  | .interval => "--interval <SECS>"
  | .level => "--log-level <LEVEL>"

def Flag.name : Flag → String
  | .noVerify => "--no-verify"
  | .sync => "--sync"
  | .once => "--once"

def pathShown : String := "[PATH]"

inductive Refusal where
  | unexpectedArgument (shown : String)
  | unexpectedValue (value name : String)
  | missingValue (shown : String)
  | repeated (shown : String)
  | invalidValue (value shown reason : String)
deriving DecidableEq, Repr

/-- one argument by its looks -/
inductive Word where
  | plain (text : String)
  | endOfOptions
  | option (slot : Slot) (attached : Option String)
  | flag (flag : Flag)
  | help
  | version
  | refused (refusal : Refusal)
deriving DecidableEq, Repr

/-- a long option's name, dashes included, and the value attached to it -/
def splitAttached (text : String) : String × Option String :=
  let chars := text.toList
  let name := chars.takeWhile (· != '=')
  match chars.drop name.length with
  | [] => (text, none)
  | _ :: value => (String.ofList name, some (String.ofList value))

/-- an option that takes no value: `word`, unless a value is attached -/
def withoutValue (name : String) (attached : Option String) (word : Word) : Word :=
  match attached with
  | none => word
  | some value => .refused (.unexpectedValue value name)

/-- an argument that begins with two dashes and is longer -/
def longWord (text : String) : Word :=
  let (name, attached) := splitAttached text
  if name = Slot.interval.name then .option .interval attached
  else if name = Slot.level.name then .option .level attached
  else if name = Flag.noVerify.name then withoutValue name attached (.flag .noVerify)
  else if name = Flag.sync.name then withoutValue name attached (.flag .sync)
  else if name = Flag.once.name then withoutValue name attached (.flag .once)
  else if name = "--help" then withoutValue name attached .help
  else if name = "--version" then withoutValue name attached .version
  else .refused (.unexpectedArgument name)

/-- an argument while options are still read; of several letters behind one dash the first decides -/
def classify (text : String) : Word :=
  match text.toList with
  | ['-', '-'] => .endOfOptions
  | '-' :: '-' :: _ => longWord text
  | '-' :: 'h' :: _ => .help
  | '-' :: 'V' :: _ => .version
  | '-' :: letter :: _ => .refused (.unexpectedArgument (String.ofList ['-', letter]))
  | _ => .plain text

/-- what was read last and is not settled yet -/
inductive Pending where
  | nothing
  | awaiting (slot : Slot)
  | given (slot : Slot) (value : String)
  | path (value : String)
deriving DecidableEq, Repr

/-- the arguments read so far -/
structure Progress where
  request : Request := {}
  pending : Pending := .nothing
  optionsEnded : Bool := false
deriving DecidableEq, Repr

/-- what ends the reading of arguments -/
inductive Stop where
  | help
  | version
  | refused (refusal : Refusal)
deriving DecidableEq, Repr

/-- store an option's value, unless it has one or the value is bad -/
def store (request : Request) (slot : Slot) (value : String) : Except Refusal Request :=
  match slot with
  | .interval =>
    if request.interval.isSome then .error (.repeated slot.shown)
    else
      match Decimal.readUnsigned value with
      | .ok secs => .ok { request with interval := some secs }
      | .error malformed => .error (.invalidValue value slot.shown malformed.message)
  | .level =>
    if request.level.isSome then .error (.repeated slot.shown)
    else
      match Level.parse value with
      | .ok level => .ok { request with level := some level }
      | .error reason => .error (.invalidValue value slot.shown reason)

/-- raise a flag, unless it is raised -/
def raise (request : Request) : Flag → Except Refusal Request
  | .noVerify =>
    if request.noVerify then .error (.repeated Flag.noVerify.name) else .ok { request with noVerify := true }
  | .sync => if request.sync then .error (.repeated Flag.sync.name) else .ok { request with sync := true }
  | .once => if request.once then .error (.repeated Flag.once.name) else .ok { request with once := true }

/-- settle what is pending -/
def settle (progress : Progress) : Except Refusal Progress :=
  let settled (request : Request) : Progress := { progress with request, pending := .nothing }
  match progress.pending with
  | .nothing => .ok progress
  | .awaiting slot => .error (.missingValue slot.shown)
  | .given slot value => (store progress.request slot value).map settled
  | .path value =>
    if value.isEmpty then .error (.missingValue pathShown)
    else .ok (settled { progress.request with path := some value })

def Progress.hasPath (progress : Progress) : Bool :=
  match progress.pending with
  | .path _ => true
  | _ => progress.request.path.isSome

/-- take an argument that is the path, if there is none yet -/
def takePath (progress : Progress) (text : String) : Except Stop Progress :=
  if progress.hasPath then .error (.refused (.unexpectedArgument text))
  else do
    let progress ← (settle progress).mapError .refused
    .ok { progress with pending := .path text }

def take (progress : Progress) (text : String) : Except Stop Progress :=
  if progress.optionsEnded then takePath progress text
  else
    match classify text with
    | .plain text =>
      match progress.pending with
      | .awaiting slot => .ok { progress with pending := .given slot text }
      | _ => takePath progress text
    | .endOfOptions => .ok { progress with optionsEnded := true }
    | .refused refusal => .error (.refused refusal)
    | .option slot attached => do
      let progress ← (settle progress).mapError .refused
      match attached with
      | none => .ok { progress with pending := .awaiting slot }
      | some value =>
        let request ← (store progress.request slot value).mapError .refused
        .ok { progress with request }
    | .flag flag => do
      let progress ← (settle progress).mapError .refused
      let request ← (raise progress.request flag).mapError .refused
      .ok { progress with request }
    | .help => do
      let _ ← (settle progress).mapError Stop.refused
      .error .help
    | .version => do
      let _ ← (settle progress).mapError Stop.refused
      .error .version

/-- the request the arguments spell, or what ends their reading -/
def parse (arguments : List String) : Except Stop Request := do
  let progress ← arguments.foldlM take {}
  let progress ← (settle progress).mapError .refused
  .ok progress.request

end BlockProbe.Command
