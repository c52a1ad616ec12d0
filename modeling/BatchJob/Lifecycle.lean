import BatchJob.Environment
import BatchJob.ExitRecord
import BatchJob.Launch
import BatchJob.Log

/-!
# The life of the child

Starting the one child, ending it on request, and collecting its status. Whoever collects the status
records it, so that a later wait which finds no such child reads it back. All holders of a lifecycle share
its state: the tracked child, the exit record, the calls made to the launcher, and the log.
-/

namespace BatchJob

/-- Why an operation on the child failed. -/
inductive LifecycleError
  | launch (error : LaunchError)
  | statusUnavailable (pid : Pid)
  deriving DecidableEq

namespace LifecycleError

/-- The text of a failure. -/
def message : LifecycleError → String
  | launch error => error.message
  | statusUnavailable pid =>
    "Exit status of child " ++ toString pid ++
      " is unavailable: it was reaped elsewhere and not recorded"

/-- The text of a failure, then the text of the failure below it, if there is one. -/
def chain : LifecycleError → List String
  | launch error => error.message :: error.cause?.toList
  | e => [e.message]

end LifecycleError

/-- The state around one child. -/
structure Lifecycle (σ : Type) where
  /-- The process number of the last child that was started; zero before the first one. -/
  tracked : Pid := 0
  /-- The last child that was collected. -/
  exits : ExitRecord := {}
  /-- The calls made to the launcher, the last one first. -/
  calls : List LaunchCall := []
  /-- The lines that were logged, the last one first. -/
  log : List LogLine := []
  /-- The launcher's own state. -/
  host : σ

namespace Lifecycle

variable {σ : Type}

/-- The tracked child, once one was started. -/
def child (s : Lifecycle σ) : Option Pid :=
  if s.tracked = 0 then none else some s.tracked

/-- Adds a line to the log. -/
def logged (s : Lifecycle σ) (level : LogLevel) (text : String) : Lifecycle σ :=
  { s with log := ⟨level, text⟩ :: s.log }

/-- Calls the launcher to start a child. -/
def callSpawn (L : Launcher σ) (request : SpawnRequest) (s : Lifecycle σ) :
    Except LaunchError Pid × Lifecycle σ :=
  let (result, host) := L.spawn request s.host
  (result, { s with host, calls := .spawn request :: s.calls })

/-- Calls the launcher to signal a process group. -/
def callSignal (L : Launcher σ) (group : Pid) (signal : Signal) (s : Lifecycle σ) :
    Except LaunchError Unit × Lifecycle σ :=
  let (result, host) := L.signalGroup group signal s.host
  (result, { s with host, calls := .signal group signal :: s.calls })

/-- Calls the launcher to wait for a child, and records the status it gives. -/
def callWait (L : Launcher σ) (pid : Pid) (s : Lifecycle σ) :
    Except LaunchError (Option ChildStatus) × Lifecycle σ :=
  let (result, host) := L.wait pid s.host
  let s := { s with host, calls := .wait pid :: s.calls }
  match result with
  | .ok (some status) => (.ok (some status), { s with exits := s.exits.record pid status })
  | result => (result, s)

/-- The program to start and its arguments: the given words, or without any the account's login shell,
which knows itself as such by the hyphen in front of its name. -/
def commandLine (program : List String) (account : Account) : String × List String :=
  match program with
  | [] => (account.shell, ["-" ++ account.shell])
  | name :: _ => (name, program)

/-- Starts a program as leader of a new process group and tracks it. -/
def spawn (L : Launcher σ) (program : List String) (account : Account) (environment : Environment)
    (s : Lifecycle σ) : Except LifecycleError Pid × Lifecycle σ :=
  let (name, arguments) := commandLine program account
  let s := environment.malformed.foldl
    (fun s entry => s.logged .warn ("Ignoring environment entry without '=': " ++ entry)) s
  let request := { program := name, arguments, environment := environment.pairs, newGroup := true }
  match s.callSpawn L request with
  | (.ok pid, s) => (.ok pid, { s with tracked := pid })
  | (.error e, s) => (.error (.launch e), s)

/-- Signals a child's process group. A group that is gone already is no error. -/
def signalGroup (L : Launcher σ) (pid : Pid) (signal : Signal) (s : Lifecycle σ) :
    Except LifecycleError Unit × Lifecycle σ :=
  match s.callSignal L pid signal with
  | (.ok (), s) => (.ok (), s)
  | (.error e, s) => if e.isGone then (.ok (), s) else (.error (.launch e), s)

/-- Waits for a child whose status nobody asks for. A child that was collected already is no error. -/
def collect (L : Launcher σ) (pid : Pid) (s : Lifecycle σ) : Except LifecycleError Unit × Lifecycle σ :=
  match s.callWait L pid with
  | (.ok _, s) => (.ok (), s)
  | (.error e, s) => (.error (.launch e), s)

/-- Signals a child's process group and then waits for the child. -/
def terminate (L : Launcher σ) (pid : Pid) (signal : Signal) (s : Lifecycle σ) :
    Except LifecycleError Unit × Lifecycle σ :=
  match s.signalGroup L pid signal with
  | (.ok (), s) => s.collect L pid
  | (.error e, s) => (.error e, s)

/-- Waits for a child and answers the job's return code for its status, which is the one waited for or
else the recorded one. -/
def reap (L : Launcher σ) (pid : Pid) (s : Lifecycle σ) : Except LifecycleError Int32 × Lifecycle σ :=
  match s.callWait L pid with
  | (.error e, s) => (.error (.launch e), s)
  | (.ok (some status), s) => (.ok status.returnCode, s)
  | (.ok none, s) =>
    match s.exits.lookup pid with
    | some status => (.ok status.returnCode, s)
    | none => (.error (.statusUnavailable pid), s)

/-- What is logged when a request to end the child comes before the child was started. -/
def requestedTooEarly : String := "Termination requested before the child was spawned"

/-- Serves a request from outside to end the tracked child; answers whether there was one. -/
def requestEnd (L : Launcher σ) (signal : Signal) (s : Lifecycle σ) :
    Except LifecycleError Bool × Lifecycle σ :=
  match s.child with
  | some pid =>
    match s.terminate L pid signal with
    | (.ok (), s) => (.ok true, s)
    | (.error e, s) => (.error e, s)
  | none => (.ok false, s.logged .warn requestedTooEarly)

end Lifecycle

end BatchJob
