import BatchJob.Job.Preparation

/-!
# The main sequence

One job from the start of its child to its return code, as a machine that takes one step at a time. The
child is started once; then the relay runs until it stops; then the child is collected, the datasets are
closed, and the child's status gives the return code. When the relay fails, the child's process group is
told to end and the child is waited for before the failure is passed on.

`turn?` is the step. There is none when the job is over or has to wait: for the relay, or for the end of
the child. Between any two steps other parties act (`advance`): the child and its descendants, whoever
collects children that have ended, and the operator.
-/

namespace BatchJob

/-- Where a job stands. -/
inductive JobPhase
  /-- Everything is prepared, and the child is to be started. -/
  | spawning
  | relaying (pid : Pid)
  /-- The relay has failed, and the child is to be told to end. -/
  | ending (pid : Pid) (failure : RelayError)
  /-- The child was told to end and is waited for. -/
  | awaiting (pid : Pid) (failure : RelayError)
  /-- The relay has stopped, and the child is to be collected. -/
  | reaping (pid : Pid)
  /-- The return code is known, and the datasets are to be closed. -/
  | closing (code : Int32)
  | over (result : Except JobError Int32)

/-- A job under way: what is to be started, the relay with everything it works on, the state around the
child, and where the job stands. -/
structure Job (σ : Type) where
  program : List String
  account : Account
  environment : Environment
  relay : Relay FileSystem Dataset Dataset
  lifecycle : Lifecycle σ
  phase : JobPhase := .spawning

namespace Job

variable {σ : Type}

/-- The return code of a job or its failure, once it is over. -/
def result? (j : Job σ) : Option (Except JobError Int32) :=
  match j.phase with
  | .over result => some result
  | _ => none

/-- Prepares a job; gives what the preparation left behind beside it. -/
def create (options : RunOptions) (config : Config) (vars : Variables) (account : Account)
    (standardOutput : OpenFile) (files : FileSystem) (host : σ) : Except JobError (Job σ) × Desk :=
  match (Preparing.prepare options config vars account standardOutput).run.run { files } with
  | (.error e, desk) => (.error e, desk)
  | (.ok (relay, environment), desk) =>
    (.ok { program := options.program, account, environment, relay, lifecycle := { log := desk.log, host } },
      desk)

/-- Adds a line to the log. -/
def logged (j : Job σ) (level : LogLevel) (text : String) : Job σ :=
  { j with lifecycle := j.lifecycle.logged level text }

/-- Closes the supervisor's ends of the three pipes. -/
def closePipes (j : Job σ) : Job σ :=
  let p := j.relay.plumbing
  let plumbing := { p with
    stdin := p.stdin.close .write
    stdout := p.stdout.close .read
    stderr := p.stderr.close .read }
  { j with relay := { j.relay with plumbing } }

/-- Gives up one dataset and logs what could not be written any more. -/
def discard (j : Job σ) (dataset : Dataset) : Job σ :=
  let (lines, machine) := dataset.discard j.relay.machine
  { j with
    relay := { j.relay with machine }
    lifecycle := { j.lifecycle with log := lines.reverse ++ j.lifecycle.log } }

/-- Ends a job with a failure, giving up its pipes and its datasets. -/
def fail (j : Job σ) (e : JobError) : Job σ :=
  let outputs := j.relay.outputs
  let j := [j.relay.input, outputs.stdout, outputs.stderr, outputs.fallback].foldl discard j.closePipes
  { j with phase := .over (.error e) }

/-- Starts the child. -/
def start (L : Launcher σ) (j : Job σ) : Job σ :=
  match j.lifecycle.spawn L j.program j.account j.environment with
  | (.ok pid, lifecycle) => { j with lifecycle, phase := .relaying pid }
  | (.error e, lifecycle) => { j with lifecycle }.fail (.spawning e)

/-- Lets the relay take a step, or goes on from how it ended; absent while the relay has to wait. -/
def forward? (j : Job σ) (pid : Pid) : Option (Job σ) :=
  match j.relay.outcome with
  | none => j.relay.turn?.map fun relay => { j with relay }
  | some (.ok ()) => some { j.closePipes with phase := .reaping pid }
  | some (.error e) =>
    some { j.logged .error ("I/O relay failed: " ++ e.message) with phase := .ending pid e }

/-- Passes on a failure of the relay, after an attempt to end the child. -/
def giveUp (j : Job σ) (pid : Pid) (failure : RelayError) (ended : Except LifecycleError Unit) : Job σ :=
  let j := match ended with
    | .ok () => j
    | .error e => j.logged .warn ("Could not terminate child " ++ toString pid ++ ": " ++ e.message)
  j.fail (.relaying failure)

/-- Tells the child to end. -/
def tellToEnd (L : Launcher σ) (j : Job σ) (pid : Pid) (failure : RelayError) : Job σ :=
  match j.lifecycle.signalGroup L pid .term with
  | (.ok (), lifecycle) => { j with lifecycle, phase := .awaiting pid failure }
  | (.error e, lifecycle) => { j with lifecycle }.giveUp pid failure (.error e)

/-- Waits for a child that was told to end. -/
def await (L : Launcher σ) (j : Job σ) (pid : Pid) (failure : RelayError) : Job σ :=
  let (ended, lifecycle) := j.lifecycle.collect L pid
  { j with lifecycle }.giveUp pid failure ended

/-- Collects the child. -/
def reap (L : Launcher σ) (j : Job σ) (pid : Pid) : Job σ :=
  match j.lifecycle.reap L pid with
  | (.ok code, lifecycle) => { j with lifecycle, phase := .closing code }
  | (.error e, lifecycle) => { j with lifecycle }.fail (.reaping e)

/-- Closes the input dataset and then the output datasets. -/
def finish (j : Job σ) (code : Int32) : Job σ :=
  let (result, input, machine) := j.relay.input.close j.relay.machine
  let j := { j with relay := { j.relay with input, machine } }
  match result with
  | .error e => j.fail (.closingInput e)
  | .ok () =>
    let (result, outputs, machine) := j.relay.outputs.closeAll j.relay.machine
    let j := { j with relay := { j.relay with outputs, machine } }
    match result with
    | .error e => j.fail (.closingOutputs e)
    | .ok () =>
      { j.logged .info ("Job ended with return code " ++ toString code) with phase := .over (.ok code) }

/-- One step of a job; absent when it is over or has to wait for another party. -/
def turn? (L : FileSystem → Launcher σ) (j : Job σ) : Option (Job σ) :=
  let L := L j.relay.machine
  match j.phase with
  | .spawning => some (j.start L)
  | .relaying pid => j.forward? pid
  | .ending pid failure => some (j.tellToEnd L pid failure)
  | .awaiting pid failure =>
    if L.waitReturns pid j.lifecycle.host then some (j.await L pid failure) else none
  | .reaping pid => if L.waitReturns pid j.lifecycle.host then some (j.reap L pid) else none
  | .closing code => some (j.finish code)
  | .over _ => none

/-- What the main sequence shares with other parties. -/
structure Shared (σ : Type) where
  /-- The launcher's own state. -/
  host : σ
  exits : ExitRecord
  plumbing : Plumbing
  files : FileSystem

/-- What a job shares with other parties. -/
def shared (j : Job σ) : Shared σ where
  host := j.lifecycle.host
  exits := j.lifecycle.exits
  plumbing := j.relay.plumbing
  files := j.relay.machine

/-- The job after other parties have changed what it shares with them. -/
def withShared (j : Job σ) (s : Shared σ) : Job σ :=
  { j with
    lifecycle := { j.lifecycle with host := s.host, exits := s.exits }
    relay := { j.relay with plumbing := s.plumbing, machine := s.files } }

/-- What happens next to a job. -/
inductive Event (σ : Type)
  /-- Another party acts. -/
  | outside (change : Shared σ → Shared σ)
  /-- The operator's listener acts on the child. -/
  | operator (change : Lifecycle σ → Lifecycle σ)
  /-- The main sequence takes a step, if it can. -/
  | turn

/-- The state after an event. -/
def advance (L : FileSystem → Launcher σ) (j : Job σ) : Event σ → Job σ
  | .outside change => j.withShared (change j.shared)
  | .operator change => { j with lifecycle := change j.lifecycle }
  | .turn => (j.turn? L).getD j

/-- The state after a schedule of events. -/
def run (L : FileSystem → Launcher σ) (j : Job σ) (schedule : List (Event σ)) : Job σ :=
  schedule.foldl (advance L) j

end Job

end BatchJob
