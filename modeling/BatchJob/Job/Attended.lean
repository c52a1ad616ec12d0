import BatchJob.Console.Listener
import BatchJob.Job.Basic

/-!
# A job with a console listener

The listener runs on a thread of its own, which is started before the child is. A STOP looks up the child that is
tracked at that moment and has several steps, and so has the start of a child: it runs before it is tracked. Between
any two of these steps the other thread may act.
-/

namespace BatchJob

namespace Lifecycle

variable {σ : Type}

/-- Has the launcher start a program. The child is not tracked yet. -/
def launch (L : Launcher σ) (program : List String) (account : Account) (environment : Environment)
    (s : Lifecycle σ) : Except LaunchError Pid × Lifecycle σ :=
  let (name, arguments) := commandLine program account
  let s := environment.malformed.foldl
    (fun s entry => s.logged .warn ("Ignoring environment entry without '=': " ++ entry)) s
  s.callSpawn L { program := name, arguments, environment := environment.pairs, newGroup := true }

/-- Tracks a child that was started. -/
def track (pid : Pid) (s : Lifecycle σ) : Lifecycle σ :=
  { s with tracked := pid }

end Lifecycle

namespace Console

/-- How far the listener is with a STOP. -/
inductive StopStage
  /-- The tracked child is to be looked up. -/
  | lookingUp
  /-- There was none, which is to be logged. -/
  | refusing
  /-- The child's process group is to be told to end. -/
  | signalling (pid : Pid)
  /-- The child was told to end, and is to be collected. -/
  | collecting (pid : Pid)
  deriving DecidableEq, Repr

/-- A command that was served to its end. -/
inductive Served
  /-- A STOP, with the child that it found. -/
  | stop (found : Option Pid)
  | other (command : Command)
  deriving DecidableEq, Repr

/-- A listener in the middle of its work. -/
structure Attendant where
  /-- How far it is with a STOP, if it is serving one. -/
  stop : Option StopStage := none
  /-- The commands that were served to their end, the last one first. -/
  served : List Served := []
  isOver : Bool := false
  deriving DecidableEq, Repr

namespace Attendant

variable {σ : Type}

/-- Notes a STOP as served to its end. -/
def stopped (t : Attendant) (found : Option Pid) : Attendant :=
  { t with stop := none, served := .stop found :: t.served }

/-- How many STOPs have found no child to end. -/
def misses (t : Attendant) : Nat :=
  t.served.count (.stop none) + if t.stop = some .refusing then 1 else 0

/-- Takes a reply of the console. -/
def hear (L : Launcher σ) (t : Attendant) (s : Lifecycle σ) : Reply → Attendant × Lifecycle σ
  | .error e => ({ t with isOver := true }, takeLeave s e)
  | .ok .stop => ({ t with stop := some .lookingUp }, s.logged .info stopReceived)
  | .ok command => ({ t with served := .other command :: t.served }, serve L s command)

/-- The next step of a STOP; absent when none is being served, and while the child has to be waited for. -/
def step? (L : Launcher σ) (t : Attendant) (s : Lifecycle σ) : Option (Attendant × Lifecycle σ) :=
  match t.stop with
  | none => none
  | some .lookingUp =>
    match s.child with
    | none => some ({ t with stop := some .refusing }, s)
    | some pid => some ({ t with stop := some (.signalling pid) }, s)
  | some .refusing => some (t.stopped none, s.logged .warn Lifecycle.requestedTooEarly)
  | some (.signalling pid) =>
    match s.signalGroup L pid .term with
    | (.ok (), s) => some ({ t with stop := some (.collecting pid) }, s)
    | (.error e, s) => some (t.stopped (some pid), stopFailed s e)
  | some (.collecting pid) =>
    if L.waitReturns pid s.host then
      match s.collect L pid with
      | (.ok (), s) => some (t.stopped (some pid), s)
      | (.error e, s) => some (t.stopped (some pid), stopFailed s e)
    else none

end Attendant

end Console

/-- A job and the listener that attends to it. -/
structure Attended (σ : Type) where
  job : Job σ
  /-- The child that was started and is not tracked yet. -/
  untracked : Option Pid := none
  listener : Console.Attendant := {}

namespace Attended

variable {σ : Type}

/-- A step of the main sequence, if it can take one. To start the child takes two. -/
def mainStep (L : FileSystem → Launcher σ) (a : Attended σ) : Attended σ :=
  let j := a.job
  match j.phase, a.untracked with
  | .spawning, none =>
    match j.lifecycle.launch (L j.relay.machine) j.program j.account j.environment with
    | (.ok pid, lifecycle) => { a with job := { j with lifecycle }, untracked := some pid }
    | (.error e, lifecycle) => { a with job := { j with lifecycle }.fail (.spawning (.launch e)) }
  | .spawning, some pid =>
    { a with job := { j with lifecycle := j.lifecycle.track pid, phase := .relaying pid }, untracked := none }
  | _, _ => { a with job := (j.turn? L).getD j }

/-- What happens next to a job and its listener. -/
inductive Event (σ : Type)
  /-- Another party acts. -/
  | outside (change : Job.Shared σ → Job.Shared σ)
  /-- The console gives the listener a reply, if it is waiting for one. -/
  | hear (reply : Console.Reply)
  /-- The listener takes a step of a STOP, if it can. -/
  | listener
  /-- The main sequence takes a step, if it can. -/
  | main

/-- The state after an event. -/
def advance (L : FileSystem → Launcher σ) (a : Attended σ) : Event σ → Attended σ
  | .outside change => { a with job := a.job.withShared (change a.job.shared) }
  | .hear reply =>
    if a.listener.isOver || a.listener.stop.isSome then a
    else
      let (listener, lifecycle) := a.listener.hear (L a.job.relay.machine) a.job.lifecycle reply
      { a with listener, job := { a.job with lifecycle } }
  | .listener =>
    match a.listener.step? (L a.job.relay.machine) a.job.lifecycle with
    | some (listener, lifecycle) => { a with listener, job := { a.job with lifecycle } }
    | none => a
  | .main => a.mainStep L

/-- The state after a schedule of events. -/
def run (L : FileSystem → Launcher σ) (a : Attended σ) (schedule : List (Event σ)) : Attended σ :=
  schedule.foldl (advance L) a

end Attended

end BatchJob
