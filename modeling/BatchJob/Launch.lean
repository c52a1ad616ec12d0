import BatchJob.ChildStatus
import BatchJob.IoError

/-!
# Launching

The seam between the supervisor and the machine: starting a child, signalling its process group, and
waiting for it. A launcher works on a state of its own, so that a real machine and a rehearsed one are
values of one type.
-/

namespace BatchJob

/-- What a launcher needs to start a child. -/
structure SpawnRequest where
  /-- The program; one without a slash is searched for on the PATH of the child's environment. -/
  program : String
  /-- All arguments, from the name the program is called by. -/
  arguments : List String
  /-- The child's environment; nothing else is inherited. -/
  environment : List (String × String)
  /-- Whether the child leads a process group of its own. -/
  newGroup : Bool
  deriving DecidableEq, Repr

/-- Why a launcher failed. -/
inductive LaunchError
  | notFound (program : String)
  | spawn (program : String) (cause : IoError)
  | noPid (program : String)
  | signal (group : Pid) (sent : Signal) (cause : Errno)
  | wait (pid : Pid) (cause : Errno)
  deriving DecidableEq

namespace LaunchError

/-- The text of a failure. -/
def message : LaunchError → String
  | notFound program => "Program '" ++ program ++ "' was not found on the child's PATH"
  | spawn program cause => "Spawn failed running program '" ++ program ++ "': " ++ cause.message
  | noPid program => "Spawned program '" ++ program ++ "' reported no usable process id"
  | signal group sent cause =>
    "kill() failed for process group " ++ toString group ++ " with " ++ sent.name ++ ": " ++ cause.message
  | wait pid cause => "waitpid() failed for " ++ toString pid ++ ": " ++ cause.message

/-- The text of the failure below this one, if there is one. -/
def cause? : LaunchError → Option String
  | notFound _ | noPid _ => none
  | spawn _ cause => some cause.message
  | signal _ _ cause | wait _ cause => some cause.message

/-- Whether a signal failed because the process group is gone already. -/
def isGone : LaunchError → Bool
  | signal _ _ .srch => true
  | _ => false

end LaunchError

/-- The three calls of a launcher on its state, and whether the one that may have to wait has to. -/
structure Launcher (σ : Type) where
  /-- Starts a child and answers its process number. -/
  spawn : SpawnRequest → σ → Except LaunchError Pid × σ
  /-- Signals every process in the group that a process leads. -/
  signalGroup : Pid → Signal → σ → Except LaunchError Unit × σ
  /-- Waits until a child has ended; no status means that there is no such child any more. -/
  wait : Pid → σ → Except LaunchError (Option ChildStatus) × σ
  /-- Whether a wait for a child would return at once. -/
  waitReturns : Pid → σ → Bool

/-- A call that was made to a launcher. -/
inductive LaunchCall
  | spawn (request : SpawnRequest)
  | signal (group : Pid) (sent : Signal)
  | wait (pid : Pid)
  deriving DecidableEq

end BatchJob
