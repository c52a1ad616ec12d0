import BatchJob.Machine.Shell.Builtin.Signals

/-!
# Commands on the background

The commands that wait for what runs in the background and show it.
-/

namespace BatchJob.Machine.Shell

/-- The number for one more job in the background. A number whose job has been waited for is taken again. -/
def freeNumber (s : Shell) : Nat :=
  let taken := (s.jobs.filter (·.status.isNone)).map (·.number)
  ((List.range (taken.length + 1)).map (· + 1)).find? (!taken.contains ·) |>.getD 1

/-- Adds a job in the background. -/
def addJob (s : Shell) (pid : Pid) : Shell :=
  let number := s.freeNumber
  { s with background := some pid, jobs := { number, pid } :: s.jobs.filter (·.number ≠ number) }

/-- Notes how a job has ended. -/
def endJob (s : Shell) (pid : Pid) (status : ChildStatus) : Shell :=
  { s with jobs := s.jobs.map fun job => if job.pid = pid then { job with status := some status } else job }

namespace Builtin

/-- Waits for a job; answers its status unless a signal came. -/
def awaitJob (job : BackgroundJob) : Deed (Option ChildStatus) := do
  match job.status with
  | some status => return some status
  | none =>
    let status ← fun _ s k => .awaitOrNotice job.pid fun status => k (status, s)
    match status with
    | some status => modify (·.endJob job.pid status)
    | none => pure ()
    return status

/-- Waits for jobs, whatever they come to. -/
def awaitAll (jobs : List BackgroundJob) : Deed Unit := do
  match jobs with
  | [] => return
  | job :: rest =>
    match ← awaitJob job with
    | some _ => awaitAll rest
    | none => interrupted

/-- The job that an argument of a wait names. -/
def jobOf (text : String) : Deed (Option BackgroundJob) := do
  let s ← get
  if text.startsWith "%" then
    match job? s text, s.dialect with
    | some job, _ => return some job
    | none, .standard => Deed.stop ("wait: " ++ noJob s text)
    | none, .extended =>
      remark "wait" (noJob s text) 127
      return none
  else
    match text.toNat?, s.dialect with
    | some n, _ =>
      match s.jobs.find? (·.pid = Int32.ofNat n), s.dialect with
      | some job, _ => return some job
      | none, .standard =>
        Deed.done 127
        return none
      | none, .extended =>
        remark "wait" ("pid " ++ text ++ " is not a child of this shell") 127
        return none
    | none, .standard => Deed.stop ("wait: Illegal number: " ++ text)
    | none, .extended => fault "wait" "" ("\x60" ++ text ++ "': not a pid or valid job spec")

/-- Waits for one job after the other. -/
def awaitEach (arguments : List String) : Deed Unit := do
  match arguments with
  | [] => return
  | text :: rest =>
    match ← jobOf text with
    | none => awaitEach rest
    | some job =>
      match ← awaitJob job with
      | none => interrupted
      | some status =>
        if job.status.isNone && !(← get).isExtended then Deed.announce job.pid status
        Deed.done (statusOf status)
        awaitEach rest

/-- Waits for all jobs in the background or for those named; the status is that of the last one named. -/
def wait : Builtin := fun arguments => do
  let s ← get
  let (options, arguments) ← takeOptions "wait" (if s.isExtended then ('p', true) :: flags "fn" else []) arguments
  Deed.done 0
  if has 'n' options then
    match s.jobs.filter (·.status.isNone) with
    | [] => Deed.done 127
    | jobs => awaitEach ((jobs.getLast?.map fun job => toString job.pid).toList)
  else if arguments.isEmpty then awaitAll (s.jobs.filter (·.status.isNone)).reverse
  else awaitEach arguments

/-- What is said of how a job stands. -/
def standing : Option ChildStatus → String
  | none => "Running"
  | some (.exited 0) => "Done"
  | some (.exited code) => "Done(" ++ toString (code.toInt % 256) ++ ")"
  | some (.signaled signal) => signalDescription signal

/-- Looks whether jobs have ended. -/
def pollJobs (jobs : List BackgroundJob) : Deed Unit := do
  for job in jobs do
    if job.status.isNone then
      let status ← fun _ s k => .poll job.pid fun status => k (status, s)
      match status with
      | some status => modify (·.endJob job.pid status)
      | none => pure ()

/-- Shows the jobs in the background. Those that have ended are forgotten. -/
def showJobs : Builtin := fun arguments => do
  let isExtended := (← get).isExtended
  let (options, names) ← takeOptions "jobs" (flags (if isExtended then "lnprs" else "lp")) arguments
  pollJobs (← get).jobs
  let s ← get
  let mark (place : Nat) : String := if place = 0 then "+" else if place = 1 then "-" else " "
  let line (place : Nat) (job : BackgroundJob) : String :=
    if has 'p' options then toString job.pid ++ "\n"
    else
      let front := "[" ++ toString job.number ++ "]" ++ (if isExtended then mark place ++ " " else " " ++ mark place) ++
        " " ++ (if has 'l' options then toString job.pid ++ " " else "") ++ standing job.status
      front ++ String.ofList (List.replicate (33 - front.length) ' ') ++ "\n"
  let wanted (job : BackgroundJob) : Bool :=
    names.isEmpty || names.any fun name => (job? s name).any (·.number = job.number)
  for name in names do
    if (job? s name).isNone then fault "jobs" (noJob s name) (noJob s name)
  let place (i : Nat) : Nat :=
    if isExtended then i else (s.jobs.take i).countP (·.status.isNone)
  let jobs := s.jobs.mapIdx fun i job => (job, line (place i) job)
  let shown := jobs.filter fun (job, _) => wanted job && (!isExtended || job.status.isNone)
  let shown := if isExtended then shown.reverse else shown
  modify fun s => { s with jobs := s.jobs.filter (·.status.isNone) }
  Deed.write "jobs" (String.join (shown.map Prod.snd))

end Builtin

end BatchJob.Machine.Shell
