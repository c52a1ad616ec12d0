import BatchJob.Machine.Step
import BatchJob.Rehearsal.JobScene

/-!
# Launching on the machine

The launcher that starts programs as processes of the rehearsed machine. A program is searched for on the
PATH of the environment it is to get, and never on any other. A child starts with exactly that environment,
in the order of its keys, and with the descriptors it is given.
-/

namespace BatchJob.Machine

/-- The value of a key in an environment, the last entry with it counting. -/
def lastValue? (environment : List (String × String)) (key : String) : Option String :=
  environment.reverse.lookup key

/-- An environment as a program gets it: every key once, with its last value, in the order of the keys. -/
def effective (environment : List (String × String)) : List (String × String) :=
  let keys := ((environment.map Prod.fst).mergeSort fun a b => a ≤ b).eraseDups
  keys.filterMap fun key => (lastValue? environment key).map (key, ·)

/-- The entries of an environment as texts of octets, each parted at its first equals sign. -/
def entriesOf (environment : List (String × String)) : List (String × String) :=
  environment.map fun (key, value) =>
    let entry := (Text.toOctets (key ++ "=" ++ value)).toList
    let name := entry.takeWhile (· != '=')
    (String.ofList name, String.ofList (entry.drop (name.length + 1)))

/-- The path that a program is executed at. -/
def programPath? (fs : FileSystem) (request : SpawnRequest) : Option String :=
  ProgramPath.resolve? fs.isExecutable request.program (lastValue? request.environment "PATH")

/-- Whether a text can be passed to a program. -/
def isPlain (text : String) : Bool :=
  !text.toList.contains '\x00'

/-- Whether all texts of a request can be passed to a program. -/
def isPassable (path : String) (request : SpawnRequest) : Bool :=
  isPlain path && request.arguments.all isPlain &&
    request.environment.all fun (key, value) => isPlain key && isPlain value

/-- The environment that a request gives, as its program sees it. -/
def environmentOf (request : SpawnRequest) : List (String × String) :=
  entriesOf (effective request.environment)

/-- The image that a request starts. -/
def imageOf (fs : FileSystem) (request : SpawnRequest) : Except LaunchError Image :=
  match programPath? fs request with
  | none => .error (.notFound request.program)
  | some path =>
    if isPassable path request then
      let arguments := if request.arguments.isEmpty then [path] else request.arguments
      (Image.load fs (Text.toOctets path) (arguments.map Text.toOctets) (environmentOf request)).mapError fun e =>
        .spawn request.program (.os e)
    else .error (.spawn request.program .nulInArgument)

/-- Starts a child of the supervisor. -/
def spawn (fs : FileSystem) (stdio : List (Nat × Descriptor)) (request : SpawnRequest) (m : Machine) :
    Except LaunchError Pid × Machine :=
  match imageOf fs request with
  | .error e => (.error e, m)
  | .ok image =>
    let task := Programs.task image.program (image.arguments.headD "") (image.arguments.drop 1)
      (environmentOf request)
    let (pid, m) := m.add fun pid =>
      { pid, parent := supervisor, group := if request.newGroup then pid else supervisor, descriptors := stdio, task }
    (.ok pid, m)

/-- Whether a wait of the supervisor for a child returns at once. -/
def waitReturns (pid : Pid) (m : Machine) : Bool :=
  match m.processes.find? fun p => p.pid = pid ∧ p.parent = supervisor with
  | some p => !p.isLive
  | none => true

/-- The launcher of a machine for children with given standard descriptors. -/
def launcher (stdio : List (Nat × Descriptor)) (fs : FileSystem) : Launcher Machine where
  spawn := spawn fs stdio
  signalGroup group signal m :=
    match m.signalGroup group signal with
    | (true, m) => (.ok (), m)
    | (false, m) => (.error (.signal group signal .srch), m)
  wait pid m :=
    match m.processes.find? fun p => p.pid = pid ∧ p.parent = supervisor with
    | none => (.ok none, m)
    | some p => (.ok p.status, m.remove pid)
  waitReturns := waitReturns

/-- The child's ends of a job's plumbing as standard descriptors. -/
def plumbed : List (Nat × Descriptor) :=
  [(Task.standardInput, .input), (Task.standardOutput, .output .stdout), (Task.standardError, .output .stderr)]

/-- The machine as the company of a job. -/
def company : Rehearsal.Company Machine where
  launcher := launcher plumbed
  act? := World.step?
  pass? := pass?
  isReady _ := false

end BatchJob.Machine
