import BatchJob.Machine.Launcher

/-!
# Launching without a job

A session with the machine's launcher alone: children are started with files as their standard descriptors,
signalled and waited for, each under a name of its own. The input of a child named `x` is the file `in.x`,
and what it writes goes to the files `out.x` and `err.x`. Nobody but the session collects its children.
-/

namespace BatchJob.Machine

/-- A session: the machine, and the children by their names. -/
structure Session where
  world : World
  children : List (String × Pid) := []

namespace Session

/-- A session on given files. -/
def create (files : FileSystem) : Session where
  world := { host := { collectsExits := false }, exits := {}, plumbing := .fresh, files }

/-- Lets processes act, and time pass when none can, until `isDone` holds. The fuel is the number of steps
at most. -/
def runUntil (isDone : World → Bool) (fuel : Nat) (w : World) : World :=
  match fuel with
  | 0 => w
  | fuel + 1 =>
    if isDone w then w
    else
      match w.step?, pass? w.host with
      | some w, _ => runUntil isDone fuel w
      | none, some host => runUntil isDone fuel { w with host }
      | none, none => w

/-- Lets processes act until none can. The fuel is the number of steps at most. -/
def settle (fuel : Nat) (s : Session) : Session :=
  match fuel with
  | 0 => s
  | fuel + 1 =>
    match s.world.step? with
    | some world => settle fuel { s with world }
    | none => s

/-- Opens the three files of a child as its standard descriptors. -/
def openFiles (s : Session) (name : String) (input : Bytes) : List (Nat × Descriptor) × Session :=
  let path (stem : String) : String := stem ++ "." ++ name
  let inputFile : Node := .file FileSystem.newFileMode ⟨input.toArray⟩
  let world := { s.world with files := s.world.files.install (path "in") inputFile }
  let wanted : List (Nat × String × OpenManner) :=
    [(Task.standardInput, path "in", .read), (Task.standardOutput, path "out", .truncate),
      (Task.standardError, path "err", .truncate)]
  let (stdio, world) := wanted.foldl (fun (stdio, world) (number, path, manner) =>
    match World.openAt world path manner FileSystem.newFileMode with
    | .ok (descriptor, world) => (stdio ++ [(number, descriptor)], world)
    | .error _ => (stdio, world)) ([], world)
  (stdio, { s with world })

/-- Starts a child under a name. -/
def spawn (s : Session) (name : String) (input : Bytes) (request : SpawnRequest) :
    Except LaunchError Unit × Session :=
  let (stdio, s) := s.openFiles name input
  let (result, host) := (launcher stdio s.world.files).spawn request s.world.host
  let s := { s with world := { s.world with host } }
  match result with
  | .ok pid => (.ok (), { s with children := (name, pid) :: s.children })
  | .error e => (.error e, s)

/-- The process number of a child. -/
def pid (s : Session) (name : String) : Pid :=
  (s.children.lookup name).getD 0

/-- Signals the group that a child leads. -/
def signal (s : Session) (name : String) (signal : Signal) : Except LaunchError Unit × Session :=
  let (result, host) := (launcher [] s.world.files).signalGroup (s.pid name) signal s.world.host
  (result, { s with world := { s.world with host } })

/-- Waits for a child. The fuel is the number of steps until it ends at most. -/
def wait (fuel : Nat) (s : Session) (name : String) :
    Except LaunchError (Option ChildStatus) × Session :=
  let pid := s.pid name
  let world := runUntil (fun w => waitReturns pid w.host) fuel s.world
  let (result, host) := (launcher [] world.files).wait pid world.host
  (result, { s with world := { world with host } })

end Session

end BatchJob.Machine
