import BatchJob.Launch

/-!
# A scripted launcher

A launcher whose results are given in advance, one queue for each kind of call; an empty queue gives a
default.
-/

namespace BatchJob.Rehearsal

/-- How a scripted start of a child fails. -/
inductive SpawnFault
  | notFound
  | spawn
  | noPid
  deriving DecidableEq, Repr

/-- The failure of a scripted start. -/
def SpawnFault.toError (program : String) : SpawnFault → LaunchError
  | .notFound => .notFound program
  | .spawn => .spawn program .scripted
  | .noPid => .noPid program

/-- The results still to be given. -/
structure LaunchScript where
  spawns : List (Except SpawnFault Pid) := []
  signals : List (Except Errno Unit) := []
  waits : List (Except Errno (Option ChildStatus)) := []

namespace LaunchScript

/-- The process number of a child whose start is not scripted. -/
def defaultPid : Pid := 4321

/-- The launcher that gives scripted results. -/
def launcher : Launcher LaunchScript where
  spawn request script :=
    match script.spawns with
    | [] => (.ok defaultPid, script)
    | result :: spawns => (result.mapError (·.toError request.program), { script with spawns })
  signalGroup group signal script :=
    match script.signals with
    | [] => (.ok (), script)
    | result :: signals => (result.mapError (.signal group signal), { script with signals })
  wait pid script :=
    match script.waits with
    | [] => (.ok none, script)
    | result :: waits => (result.mapError (.wait pid), { script with waits })
  waitReturns _ _ := true

end LaunchScript

end BatchJob.Rehearsal
