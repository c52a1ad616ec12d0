import BatchJob.Lifecycle
import BatchJob.Shutdown

/-!
# Collecting the child from several threads

Three parties may collect the one child: the main thread, which reaps it, the thread of the console listener,
which ends it on request, and the handler for child exits. This is the life of the child in steps that other
parties may come between.

The two threads take a lock before they wait, and release it after they have recorded what the wait gave, or
have looked it up. So of two waits the second one finds the record of the first. The handler takes no lock. It
interrupts the main thread, which goes on only when the handler is done; a wait that was interrupted starts
again.
-/

namespace BatchJob

/-- A thread that makes calls on the child. -/
inductive CallingThread
  | main
  | listener
  deriving DecidableEq, Repr

/-- What a call on the child is for. -/
inductive CallPurpose
  /-- To wait for the child and answer its return code. -/
  | reap
  /-- To signal the child's process group and wait for the child. -/
  | terminate
  deriving DecidableEq, Repr

/-- How far a call is. The thread holds the lock from `waiting` to `releasing`. -/
inductive CallStage
  /-- The process group is to be signalled. -/
  | signalling (signal : Signal)
  /-- The lock is to be taken. -/
  | locking
  /-- The child is to be waited for. -/
  | waiting
  /-- What the wait gave is to be recorded. -/
  | recording (status : ChildStatus)
  /-- The wait found no such child, and the record is to be looked up. -/
  | lookingUp
  /-- The lock is to be released; the call has found a status, or none, or has failed. -/
  | releasing (found : Except LifecycleError (Option ChildStatus))

/-- A call that a thread is making. -/
structure ChildCall where
  purpose : CallPurpose
  stage : CallStage

/-- How far the handler for child exits is. -/
inductive HandlerStage
  | idle
  /-- It is to ask for a child that has ended. -/
  | polling
  /-- It has collected a child, whose status is to be recorded. -/
  | recording (status : ChildStatus)
  /-- No child is left to be collected, and the shutdown signal is to be posted. -/
  | posting
  deriving DecidableEq

/-- The life of the child, with what each party is doing and what the calls have answered. -/
structure Threads (σ : Type) where
  lifecycle : Lifecycle σ
  shutdown : ShutdownSignal := {}
  /-- The thread that holds the lock. -/
  holder : Option CallingThread := none
  main : Option ChildCall := none
  listener : Option ChildCall := none
  handler : HandlerStage := .idle
  /-- What the calls that reap have answered, the last answer first. -/
  codes : List (Except LifecycleError Int32) := []
  /-- What the calls that terminate have answered, the last answer first. -/
  terminations : List (Except LifecycleError Unit) := []

namespace Lifecycle

variable {σ : Type}

/-- Calls the launcher to wait for a child; what it gives is not recorded yet. -/
def askWait (L : Launcher σ) (pid : Pid) (s : Lifecycle σ) :
    Except LaunchError (Option ChildStatus) × Lifecycle σ :=
  let (result, host) := L.wait pid s.host
  (result, { s with host, calls := .wait pid :: s.calls })

/-- Records the status of a child that was collected. -/
def recorded (pid : Pid) (status : ChildStatus) (s : Lifecycle σ) : Lifecycle σ :=
  { s with exits := s.exits.record pid status }

end Lifecycle

/-- What follows a wait. A call that terminates does not ask for the status of a child that was collected. -/
def CallPurpose.afterWait (purpose : CallPurpose) : Except LaunchError (Option ChildStatus) → CallStage
  | .ok (some status) => .recording status
  | .ok none =>
    match purpose with
    | .reap => .lookingUp
    | .terminate => .releasing (.ok none)
  | .error e => .releasing (.error (.launch e))

/-- What a call that reaps answers. -/
def codeOf (pid : Pid) : Except LifecycleError (Option ChildStatus) → Except LifecycleError Int32
  | .ok (some status) => .ok status.returnCode
  | .ok none => .error (.statusUnavailable pid)
  | .error e => .error e

namespace Threads

variable {σ : Type}

/-- The life of the child while nobody is doing anything about it. -/
def atRest (lifecycle : Lifecycle σ) : Threads σ where
  lifecycle := lifecycle

/-- The call that a thread is making, if there is one. -/
def call (t : Threads σ) : CallingThread → Option ChildCall
  | .main => t.main
  | .listener => t.listener

/-- Replaces the call of a thread. -/
def setCall (t : Threads σ) (who : CallingThread) (call : Option ChildCall) : Threads σ :=
  match who with
  | .main => { t with main := call }
  | .listener => { t with listener := call }

/-- Brings a call to a stage. -/
def goTo (t : Threads σ) (who : CallingThread) (purpose : CallPurpose) (stage : CallStage) : Threads σ :=
  t.setCall who (some ⟨purpose, stage⟩)

/-- Ends a call with what it has found. -/
def answer (pid : Pid) (t : Threads σ) (who : CallingThread) (purpose : CallPurpose)
    (found : Except LifecycleError (Option ChildStatus)) : Threads σ :=
  let t := t.setCall who none
  match purpose with
  | .reap => { t with codes := codeOf pid found :: t.codes }
  | .terminate => { t with terminations := found.map (fun _ => ()) :: t.terminations }

/-- Whether a thread is interrupted. -/
def interrupted (t : Threads σ) : CallingThread → Bool
  | .main => t.handler != .idle
  | .listener => false

/-- A thread goes on with its call; absent while it has to wait for the lock or for the child. -/
def proceed? (L : Launcher σ) (pid : Pid) (t : Threads σ) (who : CallingThread) (call : ChildCall) :
    Option (Threads σ) :=
  match call.stage with
  | .signalling signal =>
    match t.lifecycle.signalGroup L pid signal with
    | (.ok (), lifecycle) => some ({ t with lifecycle }.goTo who call.purpose .locking)
    | (.error e, lifecycle) => some ({ t with lifecycle }.answer pid who call.purpose (.error e))
  | .locking =>
    if t.holder.isNone then some ({ t with holder := some who }.goTo who call.purpose .waiting) else none
  | .waiting =>
    if L.waitReturns pid t.lifecycle.host then
      let (result, lifecycle) := t.lifecycle.askWait L pid
      some ({ t with lifecycle }.goTo who call.purpose (call.purpose.afterWait result))
    else none
  | .recording status =>
    some ({ t with lifecycle := t.lifecycle.recorded pid status }.goTo who call.purpose
      (.releasing (.ok (some status))))
  | .lookingUp => some (t.goTo who call.purpose (.releasing (.ok (t.lifecycle.exits.lookup pid))))
  | .releasing found => some ({ t with holder := none }.answer pid who call.purpose found)

/-- A thread takes a step of its call, if it is making one and is not interrupted. -/
def step? (L : Launcher σ) (pid : Pid) (t : Threads σ) (who : CallingThread) : Option (Threads σ) :=
  match t.call who with
  | none => none
  | some call => if t.interrupted who then none else t.proceed? L pid who call

/-- A thread begins a call, unless it is making one or is interrupted. -/
def begin? (t : Threads σ) (who : CallingThread) (call : ChildCall) : Option (Threads σ) :=
  if t.interrupted who || (t.call who).isSome then none else some (t.setCall who (some call))

/-- The handler takes a step. It asks again until no child is left that has ended. -/
def handle (L : Launcher σ) (pid : Pid) (t : Threads σ) : Threads σ :=
  match t.handler with
  | .idle => t
  | .polling =>
    if L.waitReturns pid t.lifecycle.host then
      match L.wait pid t.lifecycle.host with
      | (.ok (some status), host) => { t with lifecycle := { t.lifecycle with host }, handler := .recording status }
      | (_, host) => { t with lifecycle := { t.lifecycle with host }, handler := .posting }
    else { t with handler := .posting }
  | .recording status => { t with lifecycle := t.lifecycle.recorded pid status, handler := .polling }
  | .posting => { t with shutdown := t.shutdown.post, handler := .idle }

/-- What happens next. -/
inductive Event (σ : Type)
  /-- The launcher's state changes by itself, as when the child ends. -/
  | pass (change : σ → σ)
  /-- The handler for child exits interrupts the main thread. -/
  | interrupt
  /-- The handler takes a step. -/
  | handle
  /-- The main thread begins to reap the child. -/
  | reap
  /-- A thread begins to terminate the child. -/
  | terminate (who : CallingThread) (signal : Signal)
  /-- A thread takes a step of its call, if it can. -/
  | step (who : CallingThread)

/-- The state after an event. An event that cannot happen leaves it as it is. -/
def advance (L : Launcher σ) (pid : Pid) (t : Threads σ) : Event σ → Threads σ
  | .pass change => { t with lifecycle := { t.lifecycle with host := change t.lifecycle.host } }
  | .interrupt => if t.handler = .idle then { t with handler := .polling } else t
  | .handle => t.handle L pid
  | .reap => (t.begin? .main ⟨.reap, .locking⟩).getD t
  | .terminate who signal => (t.begin? who ⟨.terminate, .signalling signal⟩).getD t
  | .step who => (t.step? L pid who).getD t

/-- The state after a schedule of events. -/
def run (L : Launcher σ) (pid : Pid) (t : Threads σ) (schedule : List (Event σ)) : Threads σ :=
  schedule.foldl (advance L pid) t

end Threads

end BatchJob
