import BatchJob.Rehearsal.JobScene
import BatchJob.Rehearsal.ScriptedLauncher

/-!
# A scripted child

A child that carries out given steps with reads and writes that wait, and the launcher that goes with it.
The child exits at an exit step or after its last step; what follows an exit step is done by a descendant
that has kept the child's descriptors.
-/

namespace BatchJob.Rehearsal

/-- A step of a scripted child. -/
inductive ChildStep
  | write (channel : OutputChannel) (bytes : Bytes)
  | closeOutput (channel : OutputChannel)
  | closeInput
  /-- Read a number of bytes, or without one all bytes up to the end of the input. -/
  | read (limit : Option Nat)
  /-- Pass the input on to the standard output. -/
  | copy
  /-- Say that it is ready. -/
  | ready
  /-- Wait for a signal. -/
  | awaitSignal
  /-- Exit with a status; the descriptors may be left to a descendant. -/
  | exit (status : ChildStatus) (keepsDescriptors : Bool)
  deriving DecidableEq

/-- How waits for a scripted child turn out, once it has exited. -/
inductive WaitManner
  /-- The first wait gives the status. -/
  | normal
  /-- The handler for child exits has collected and recorded the status before any wait. -/
  | handled
  /-- The status was collected and not recorded. -/
  | lost
  | fails (error : Errno)
  deriving DecidableEq, Repr

/-- A scripted child and the launcher's account of it. -/
structure ScriptedChild where
  steps : List ChildStep
  manner : WaitManner := .normal
  /-- How starting the child fails. -/
  spawnFault : Option SpawnFault := none
  /-- How signalling the child fails; the child notices the signal all the same. -/
  signalFault : Option Errno := none
  isStarted : Bool := false
  isReady : Bool := false
  isSignalled : Bool := false
  /-- Whether a wait has given the status. -/
  isCollected : Bool := false
  status : Option ChildStatus := none
  /-- Whether the descriptors were closed at the very end. -/
  isDone : Bool := false
  /-- What read steps have read, the last read first. -/
  gathered : List Bytes := []

namespace ScriptedChild

/-- The launcher of a scripted child. -/
def launcher : Launcher ScriptedChild where
  spawn request child :=
    match child.spawnFault with
    | some fault => (.error (fault.toError request.program), child)
    | none => (.ok LaunchScript.defaultPid, { child with isStarted := true })
  signalGroup group signal child :=
    let child := { child with isSignalled := true }
    match child.signalFault with
    | some error => (.error (.signal group signal error), child)
    | none => (.ok (), child)
  wait pid child :=
    match child.manner with
    | .fails error => (.error (.wait pid error), child)
    | .normal =>
      if child.isCollected then (.ok none, child) else (.ok child.status, { child with isCollected := true })
    | .handled | .lost => (.ok none, child)
  waitReturns _ child := child.status.isSome

/-- The state of a scripted run that other parties share. -/
abbrev Stage := Job.Shared ScriptedChild

/-- Carries out an action on the plumbing. -/
def perform (s : Stage) (action : Plumbing.Action) : Stage :=
  { s with plumbing := s.plumbing.perform action }

/-- Carries out actions on the plumbing in order. -/
def performAll (s : Stage) (actions : List Plumbing.Action) : Stage :=
  actions.foldl perform s

/-- What closes the descriptors of a child, as far as it has not closed them before. -/
def closeAll : List Plumbing.Action :=
  [.endInput, .endOutput .stdout, .endOutput .stderr]

/-- Lets the child exit: its status becomes known, and the shutdown signal is posted. -/
def exit (s : Stage) (status : ChildStatus) : Stage :=
  let s := { s with host := { s.host with status := some status } }
  let s := match s.host.manner with
    | .handled => { s with exits := s.exits.record LaunchScript.defaultPid status }
    | _ => s
  perform s .post

/-- Replaces the steps that are left. -/
def goOn (s : Stage) (steps : List ChildStep) : Stage :=
  { s with host := { s.host with steps } }

/-- Writes as much as there is room for; absent while there is none. A write that nobody can read is passed
over. -/
def write? (s : Stage) (channel : OutputChannel) (bytes : Bytes) (rest : List ChildStep) : Option Stage :=
  let pipe := s.plumbing.output channel
  if bytes.isEmpty || !s.plumbing.holdsOutput channel || !pipe.hasReader then some (goOn s rest)
  else if pipe.room = 0 then none
  else some (goOn (perform s (.emit channel bytes)) (.write channel (bytes.drop pipe.room) :: rest))

/-- Reads as much as there is, up to a number of bytes; absent while there is nothing. What is read goes to
`use`; at the end of the input there is nothing more to do. -/
def read? (s : Stage) (limit : Option Nat) (use : Bytes → Stage → Stage) (again : Nat → List ChildStep)
    (rest : List ChildStep) : Option Stage :=
  let size := s.plumbing.stdin.queue.size
  let n := min size (limit.getD size)
  if limit = some 0 || s.plumbing.stdin.readDuplicates = 0 then some (goOn s rest)
  else if n = 0 then if s.plumbing.stdin.hasWriter then none else some (goOn s rest)
  else
    let bytes := (s.plumbing.stdin.queue.take n).1
    some (use bytes (goOn (perform s (.take n)) (again n ++ rest)))

/-- Adds bytes to what was read. -/
def gather (bytes : Bytes) (s : Stage) : Stage :=
  { s with host := { s.host with gathered := bytes :: s.host.gathered } }

/-- One step of the child or its descendant; absent before the start, after the end, and while the step has
to wait. -/
def act? (s : Stage) : Option Stage :=
  if !s.host.isStarted || s.host.isDone then none
  else
    match s.host.steps with
    | [] =>
      let s := performAll s closeAll
      let s := if s.host.status.isNone then exit s (.exited 0) else s
      some { s with host := { s.host with isDone := true } }
    | .write channel bytes :: rest => write? s channel bytes rest
    | .closeOutput channel :: rest => some (goOn (perform s (.endOutput channel)) rest)
    | .closeInput :: rest => some (goOn (perform s .endInput) rest)
    | .read limit :: rest => read? s limit gather (fun n => [.read (limit.map (· - n))]) rest
    | .copy :: rest =>
      read? s none (fun bytes s => goOn s (.write .stdout bytes :: s.host.steps)) (fun _ => [.copy]) rest
    | .ready :: rest => some (goOn { s with host := { s.host with isReady := true } } rest)
    | .awaitSignal :: rest => if s.host.isSignalled then some (goOn s rest) else none
    | .exit status keeps :: rest =>
      let s := if keeps then s else performAll s closeAll
      some (goOn (exit s status) rest)

/-- The company of a scripted child. -/
def company : Company ScriptedChild where
  launcher _ := launcher
  act? := act?
  pass? _ := none
  isReady child := child.isReady

end ScriptedChild

end BatchJob.Rehearsal
