import BatchJob.Console.ListenerThread
import BatchJob.Job.Basic

/-!
# Rehearsing a job

A run of the main sequence among other parties: the child with its descendants, and an operator whose
commands are scripted or stand in a file. The parties take turns by a fixed rule: the child acts as long as
it can, then the listener, and the main sequence only when neither of them can; the clock moves on when
nobody can act.
-/

namespace BatchJob.Rehearsal

open Console (ListenerThread Reply Source)

/-- The parties beside the main sequence and the operator. -/
structure Company (σ : Type) where
  /-- How the main sequence starts, signals and collects the child. -/
  launcher : FileSystem → Launcher σ
  /-- One step of the child or a descendant; absent when each of them has ended or has to wait. -/
  act? : Job.Shared σ → Option (Job.Shared σ)
  /-- Lets time pass until somebody can go on; absent when nobody waits for time to pass. -/
  pass? : σ → Option σ
  /-- Whether the child has said that it is ready. -/
  isReady : σ → Bool

/-- An item of a scripted operator. -/
inductive OperatorItem
  | reply (reply : Reply)
  /-- Wait until the child says that it is ready. -/
  | awaitReady
  /-- Wait until a file exists. -/
  | awaitFile (path : String)

/-- Where the operator's commands come from. -/
inductive Operator
  | script (items : List OperatorItem)
  | source (source : Source)

namespace Operator

/-- The reply that a script gives next, and the rest of the script. -/
def nextItem? (isReady : Bool) (fs : FileSystem) : List OperatorItem → Option (Reply × List OperatorItem)
  | [] => some (.error .closed, [])
  | .reply reply :: rest => some (reply, rest)
  | .awaitReady :: rest => if isReady then nextItem? isReady fs rest else none
  | .awaitFile path :: rest => if (fs.lookup path).isOk then nextItem? isReady fs rest else none

/-- What the console gives next; absent while it has to be waited for. -/
def next? (isReady : Bool) (fs : FileSystem) : Operator → Option (Reply × Operator × FileSystem)
  | script items => (nextItem? isReady fs items).map fun (reply, rest) => (reply, script rest, fs)
  | source s =>
    match s.next fs with
    | (.done command, s, fs) => some (.ok command, source s, fs)
    | (.failed e, s, fs) => some (.error e, source s, fs)
    | (.blocked, _, _) => none

end Operator

/-- A rehearsed run: the job, the listener with its operator, and whether the child is started only after
the listener has ended. -/
structure JobScene (σ : Type) where
  job : Job σ
  listener : Option (ListenerThread × Operator) := none
  spawnsLast : Bool := false

namespace JobScene

variable {σ : Type}

/-- A step of the child or a descendant. -/
def childStep? (company : Company σ) (s : JobScene σ) : Option (JobScene σ) :=
  (company.act? s.job.shared).map fun shared => { s with job := s.job.withShared shared }

/-- A step of the listener. Its lines do not go into the log of the job. -/
def listenerStep? (company : Company σ) (s : JobScene σ) : Option (JobScene σ) :=
  match s.listener with
  | none => none
  | some (thread, operator) =>
    let lifecycle := s.job.lifecycle
    let L := company.launcher s.job.relay.machine
    let resume (stepped : ListenerThread × Lifecycle σ) (operator : Operator) : JobScene σ :=
      { s with
        listener := some (stepped.1, operator)
        job := { s.job with lifecycle := { stepped.2 with log := lifecycle.log } } }
    if thread.isOver then none
    else
      match thread.awaited with
      | some pid =>
        if L.waitReturns pid lifecycle.host then some (resume (thread.collect L lifecycle pid) operator)
        else none
      | none =>
        match operator.next? (company.isReady lifecycle.host) s.job.relay.machine with
        | none => none
        | some (reply, operator, machine) =>
          let s := resume (thread.hear L lifecycle reply) operator
          some { s with job := { s.job with relay := { s.job.relay with machine } } }

/-- Whether the main sequence is held back. -/
def isHeld (s : JobScene σ) : Bool :=
  match s.job.phase, s.listener with
  | .spawning, some (thread, _) => s.spawnsLast && !thread.isOver
  | _, _ => false

/-- A step of the main sequence. -/
def mainStep? (company : Company σ) (s : JobScene σ) : Option (JobScene σ) :=
  if s.isHeld then none else (s.job.turn? company.launcher).map fun job => { s with job }

/-- A step of the clock. -/
def clockStep? (company : Company σ) (s : JobScene σ) : Option (JobScene σ) :=
  (company.pass? s.job.lifecycle.host).map fun host =>
    { s with job := s.job.withShared { s.job.shared with host } }

/-- The next step of the whole run. -/
def step? (company : Company σ) (s : JobScene σ) : Option (JobScene σ) :=
  if s.job.result?.isSome then none
  else
    s.childStep? company <|> s.listenerStep? company <|> s.mainStep? company <|> s.clockStep? company

/-- Plays until the job is over or nobody can act. The fuel is the number of steps at most. -/
def play (company : Company σ) (fuel : Nat) (s : JobScene σ) : JobScene σ :=
  match fuel with
  | 0 => s
  | fuel + 1 =>
    match s.step? company with
    | some s => play company fuel s
    | none => s

/-- Lets the child and its descendants act as long as they can. The fuel is the number of steps at most. -/
def playChild (company : Company σ) (fuel : Nat) (s : JobScene σ) : JobScene σ :=
  match fuel with
  | 0 => s
  | fuel + 1 =>
    match s.childStep? company with
    | some s => playChild company fuel s
    | none => s

end JobScene

/-- Everything that is given for a rehearsed run. -/
structure Setting where
  options : RunOptions
  config : Config
  vars : Variables
  account : Account
  /-- A scripted operator in place of the console that the options name. -/
  script : Option (List OperatorItem) := none
  spawnsLast : Bool := false

/-- What a rehearsed run leaves behind. -/
structure Ending (σ : Type) where
  /-- The return code or the failure; absent when the run comes to no end. -/
  result : Option (Except JobError Int32)
  /-- What went to the supervisor's own standard output. -/
  standardOutput : Bytes
  files : FileSystem
  log : List LogLine
  /-- The calls made to the launcher. -/
  calls : List LaunchCall := []
  /-- The launcher's own state, if the preparation succeeded. -/
  host : Option σ := none

namespace Setting

variable {σ : Type}

/-- Where the operator's commands come from, if there is an operator. -/
def operator (setting : Setting) (fs : FileSystem) : Except JobError (Option Operator × FileSystem) :=
  match setting.script with
  | some items => .ok (some (.script items), fs)
  | none => (setting.options.openConsole fs).map fun (source, fs) => (source.map .source, fs)

/-- The run that is about to start, and what the preparation has left behind. -/
def stage (setting : Setting) (standardOutput : OpenFile) (fs : FileSystem) (host : σ) :
    Except JobError (JobScene σ) × Desk :=
  match setting.operator fs with
  | .error e => (.error e, { files := fs })
  | .ok (operator, fs) =>
    let listener := if setting.options.disableConsole then none else operator.map fun o => ({}, o)
    let (job, desk) := Job.create setting.options setting.config setting.vars setting.account
      standardOutput fs host
    (job.map fun job => { job, listener, spawnsLast := setting.spawnsLast }, desk)

/-- Rehearses a job on given files. When it is over, the child goes on as long as it can. The fuel is the
number of steps at most. -/
def perform (setting : Setting) (company : Company σ) (fuel : Nat) (fs : FileSystem) (host : σ) :
    Ending σ :=
  let (node, fs) := fs.addNode (.file FileSystem.newFileMode .empty)
  let written (fs : FileSystem) : Bytes :=
    match fs.node node with
    | .file _ content => content.data.toList
    | _ => []
  match setting.stage { node, access := .write } fs host with
  | (.error e, desk) =>
    { result := some (.error e), standardOutput := written desk.files, files := desk.files
      log := desk.log.reverse }
  | (.ok scene, _) =>
    let scene := (scene.play company fuel).playChild company fuel
    let job := scene.job
    { result := job.result?, standardOutput := written job.relay.machine, files := job.relay.machine
      log := job.lifecycle.log.reverse, calls := job.lifecycle.calls.reverse
      host := some job.lifecycle.host }

end Setting

end BatchJob.Rehearsal
