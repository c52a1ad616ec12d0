import BatchJob.Job.SetUp

/-!
# What the main sequence did

A run of the main sequence with a record of its steps: what each of them came to, whether the call was to the
launcher, to the relay or to a dataset. `conduct` is the whole of it, from the set-up of the job on.
-/

namespace BatchJob

/-- A step of the main sequence, with what it came to. -/
inductive JobStep
  | spawned (result : Except LifecycleError Pid)
  /-- The relay ended. -/
  | relayed (result : Except RelayError Unit)
  /-- The child's process group was told to end. -/
  | signalled (pid : Pid) (result : Except LaunchError Unit)
  /-- A child that was told to end was waited for. -/
  | awaited (pid : Pid) (result : Except LifecycleError Unit)
  /-- The child was waited for, and its return code asked for. -/
  | reaped (pid : Pid) (result : Except LifecycleError Int32)
  | closedInput (result : Except DatasetError Unit)
  | closedOutputs (result : Except DatasetError Unit)

namespace Job

variable {σ : Type}

/-- What closing the datasets comes to: the outputs are closed only after the input was. -/
def closings (j : Job σ) : List JobStep :=
  let (result, _, machine) := j.relay.input.close j.relay.machine
  match result with
  | .error e => [.closedInput (.error e)]
  | .ok () => [.closedInput (.ok ()), .closedOutputs (j.relay.outputs.closeAll machine).1]

/-- What the next step of a job comes to. -/
def nextSteps (L : FileSystem → Launcher σ) (j : Job σ) : List JobStep :=
  let L := L j.relay.machine
  match j.phase with
  | .spawning => [.spawned (j.lifecycle.spawn L j.program j.account j.environment).1]
  | .relaying _ => (j.relay.outcome.map .relayed).toList
  | .ending pid _ => [.signalled pid (j.lifecycle.callSignal L pid .term).1]
  | .awaiting pid _ =>
    if L.waitReturns pid j.lifecycle.host then [.awaited pid (j.lifecycle.collect L pid).1] else []
  | .reaping pid => if L.waitReturns pid j.lifecycle.host then [.reaped pid (j.lifecycle.reap L pid).1] else []
  | .closing _ => j.closings
  | .over _ => []

/-- A job with the record of its steps. -/
structure Record (σ : Type) where
  job : Job σ
  /-- The steps, in order. -/
  steps : List JobStep := []

namespace Record

/-- The record after an event. -/
def advance (L : FileSystem → Launcher σ) (r : Record σ) (e : Event σ) : Record σ where
  job := r.job.advance L e
  steps :=
    match e with
    | .turn => r.steps ++ r.job.nextSteps L
    | _ => r.steps

/-- The record after a schedule of events. -/
def run (L : FileSystem → Launcher σ) (r : Record σ) (schedule : List (Event σ)) : Record σ :=
  schedule.foldl (advance L) r

end Record

/-- What a job has come to. -/
structure Report where
  /-- The return code or the failure, once the job is over. -/
  result : Option (Except JobError Int32) := none
  steps : List JobStep := []
  /-- The calls to the launcher, in order. -/
  calls : List LaunchCall := []

namespace Record

/-- The report on a job. -/
def report (r : Record σ) : Report where
  result := r.job.result?
  steps := r.steps
  calls := r.job.lifecycle.calls.reverse

end Record

/-- Sets a job up and lets it run. -/
def conduct (L : FileSystem → Launcher σ) (system : OperatingSystem) (options : RunOptions) (config : Config)
    (vars : Variables) (listens : Bool) (standardOutput : OpenFile) (files : FileSystem) (host : σ)
    (schedule : List (Event σ)) : Report :=
  match createOn system options config vars listens standardOutput files host with
  | (.error e, _) => { result := some (.error e) }
  | (.ok job, _) => (({ job } : Record σ).run L schedule).report

end Job

end BatchJob
