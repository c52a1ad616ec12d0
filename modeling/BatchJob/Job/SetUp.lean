import BatchJob.Job.Basic

/-!
# Setting a job up on a system that may refuse

Before the child is started the datasets are resolved and opened, the three pipes are laid and the child's ends split
off, the handlers for signals are installed, the invoking account is looked up, the child's environment is read, the
signal for child exits is blocked, and the console listener is started. Each step may fail, and the first that does
ends the job. On a system that refuses nothing this is the preparation of a job (`Preparing.prepare`).
-/

namespace BatchJob

/-- What the system is asked for while a job is set up, beside files. -/
inductive SetUpCall
  /-- A descriptor of the supervisor's own standard output, where SYSOUT is not open. -/
  | duplicateOutput
  | createPipe (channel : Channel)
  /-- A descriptor of the child's end of a pipe. -/
  | duplicateEnd (channel : Channel)
  | createWakePipe
  | drainWakePipe
  | handle (signal : Signal)
  | lookUpAccount
  | maskChildExit
  | startListener
  deriving DecidableEq, Repr

/-- The system that a job is set up on. -/
structure OperatingSystem where
  /-- The error with which a call is refused. -/
  refuses : SetUpCall → Option Errno
  /-- The number of the invoking user. -/
  user : Nat
  /-- The entry of the invoking user in the user registry. -/
  account : Option Account

namespace OperatingSystem

/-- A system that refuses nothing. -/
def granting (account : Account) : OperatingSystem where
  refuses _ := none
  user := 0
  account := some account

/-- The child's end of the pipe of a channel. -/
def childEnd : Channel → PipeEnd
  | .stdin => .read
  | .stdout | .stderr => .write

/-- The failure of a job for a call that was refused. -/
def refusal (user : Nat) (cause : Errno) : SetUpCall → JobError
  | .duplicateOutput => .allocatingOutput (.open JobDataset.sysout.name "<stdout>" (.os cause))
  | .createPipe channel => .creatingPipe channel cause
  | .duplicateEnd channel => .duplicatingEnd (childEnd channel) (.os cause)
  | .createWakePipe => .installingHandlers (.wakePipe cause)
  | .drainWakePipe => .installingHandlers (.drain (.os cause))
  | .handle signal => .installingHandlers (.install signal cause)
  | .lookUpAccount => .lookingUpAccount (.lookup user cause)
  | .maskChildExit => .maskingChildExit (.mask cause)
  | .startListener => .startingListener (.os cause)

/-- Asks for something. -/
def ask (system : OperatingSystem) (call : SetUpCall) : Preparing Unit :=
  match system.refuses call with
  | none => pure ()
  | some cause => throw (refusal system.user cause call)

/-- Asks for several things, one after the other. -/
def askAll (system : OperatingSystem) : List SetUpCall → Preparing Unit
  | [] => pure ()
  | call :: calls => do
    system.ask call
    system.askAll calls

/-- What laying the pipes asks for. -/
def pipeCalls : List SetUpCall :=
  Channel.all.map .createPipe ++ Channel.all.map .duplicateEnd

/-- What installing the handlers asks for. -/
def handlerCalls : List SetUpCall :=
  [.createWakePipe, .drainWakePipe, .handle .pipe, .handle .chld]

/-- Looks up the invoking account. -/
def findAccount (system : OperatingSystem) : Preparing Account := do
  system.ask .lookUpAccount
  match system.account with
  | some account => return account
  | none => throw (.lookingUpAccount (.unknown system.user))

/-- Opens SYSOUT, or asks for a descriptor of the supervisor's standard output in its stead. -/
def openSystemOutput (system : OperatingSystem) (config : Config) (vars : Variables) (standardOutput : OpenFile) :
    Preparing Dataset := do
  let dataset ← Preparing.openDataset config vars .sysout .write
  if dataset.isOpen then return dataset
  else
    system.ask .duplicateOutput
    return .ofFile JobDataset.sysout.name standardOutput .write

/-- What is asked for after the environment was read. -/
def lastCalls (listens : Bool) : List SetUpCall :=
  if listens then [.maskChildExit, .startListener] else [.maskChildExit]

/-- All steps of a set-up; gives the account beside what a preparation gives. -/
def setUp (system : OperatingSystem) (options : RunOptions) (config : Config) (vars : Variables) (listens : Bool)
    (standardOutput : OpenFile) : Preparing (Account × Relay FileSystem Dataset Dataset × Environment) := do
  let fallback ← system.openSystemOutput config vars standardOutput
  let input ← Preparing.openDataset config vars .stdin .read
  let stdout ← Preparing.openDataset config vars .stdout .write
  let stderr ← Preparing.openDataset config vars .stderr .write
  let stdenv ← Preparing.openDataset config vars .stdenv .read
  system.askAll pipeCalls
  system.askAll handlerCalls
  let account ← system.findAccount
  let text ← Preparing.readEnvironment stdenv
  system.askAll (lastCalls listens)
  let desk ← get
  let relay := Relay.create Plumbing.fresh desk.files input { stdout, stderr, fallback }
    options.stopPolicy options.bufferSize
  return (account, relay, Environment.build account text)

end OperatingSystem

namespace Job

variable {σ : Type}

/-- Sets a job up; gives what the set-up left behind beside it. -/
def createOn (system : OperatingSystem) (options : RunOptions) (config : Config) (vars : Variables) (listens : Bool)
    (standardOutput : OpenFile) (files : FileSystem) (host : σ) : Except JobError (Job σ) × Desk :=
  match (system.setUp options config vars listens standardOutput).run.run { files } with
  | (.error e, desk) => (.error e, desk)
  | (.ok (account, relay, environment), desk) =>
    (.ok { program := options.program, account, environment, relay, lifecycle := { log := desk.log, host } }, desk)

end Job

end BatchJob
