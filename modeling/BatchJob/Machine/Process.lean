import BatchJob.Machine.Image
import BatchJob.Machine.Programs
import BatchJob.Relay.Plumbing

/-!
# Processes

The processes of the rehearsed machine and what they hold: descriptors that stand for an end of the job's
plumbing or for an entry in the table of open files, which several descriptors may share. A process that
has ended stays in the table until its status is collected. Signals wait in the process they are sent to
until it is its turn.
-/

namespace BatchJob

namespace Machine

/-- What a descriptor stands for. -/
inductive Descriptor
  /-- The child's end of the input pipe. -/
  | input
  /-- The child's end of an output pipe. -/
  | output (channel : OutputChannel)
  /-- An entry in the table of open files. -/
  | file (entry : Nat)
  deriving DecidableEq, Repr

/-- An open file that descriptors share. -/
structure Entry where
  file : OpenFile
  /-- Whether every write goes to the end. -/
  appends : Bool := false
  deriving DecidableEq, Repr

/-- A process. -/
structure Process where
  pid : Pid
  parent : Pid
  group : Pid
  descriptors : List (Nat × Descriptor)
  task : Task
  /-- The working directory, where it is not that of the machine. -/
  directory : Option (List String) := none
  /-- When the pause that the process is in ends. -/
  wakesAt : Option Nat := none
  isStopped : Bool := false
  /-- The signals sent and not yet delivered, in their order. -/
  pending : List Signal := []
  /-- The signals that do not have their usual effect. -/
  regards : List (Signal × Regard) := []
  /-- The signals that came and were only noted, in their order. -/
  noted : List Signal := []
  /-- The permissions that new files do not get. -/
  mask : Nat := 0o022
  /-- How the process ended, once it has. -/
  status : Option ChildStatus := none

namespace Process

/-- Whether a process has not ended. -/
def isLive (p : Process) : Bool :=
  p.status.isNone

/-- Lets a descriptor stand for something. -/
def bind (p : Process) (number : Nat) (descriptor : Descriptor) : Process :=
  { p with descriptors := (number, descriptor) :: p.descriptors.filter (·.1 ≠ number) }

/-- Closes a descriptor. -/
def unbind (p : Process) (number : Nat) : Process :=
  { p with descriptors := p.descriptors.filter (·.1 ≠ number) }

/-- The first signal that can be delivered: a stopped process notices only what ends or resumes it. -/
def nextSignal? (p : Process) : Option Signal :=
  if p.isLive then p.pending.find? fun s => !p.isStopped || s = .kill || s = .cont else none

/-- What a process that another one starts, or the program that it becomes, inherits: signals that are ignored
stay so. -/
def inheritedRegards (p : Process) : List (Signal × Regard) :=
  p.regards.filter (·.2 = .ignored)

/-- Changes what a signal does. The signals that nothing can hold up keep their effect. -/
def setRegard (p : Process) (signal : Signal) (regard : Option Regard) : Process :=
  let others := p.regards.filter (·.1 ≠ signal)
  match regard with
  | some regard =>
    if signal = .kill || signal = .stop then p else { p with regards := (signal, regard) :: others }
  | none => { p with regards := others }

/-- Adds a signal to those that wait. -/
def notify (p : Process) (signal : Signal) : Process :=
  { p with pending := p.pending ++ [signal] }

end Process

/-- What a signal does to a process that makes no provision for it. -/
inductive Disposition
  | terminate
  | ignore
  | stop
  | resume
  deriving DecidableEq, Repr

/-- What a signal does to a process. -/
def disposition : Signal → Disposition
  | .chld | .urg | .winch => .ignore
  | .stop | .tstp | .ttin | .ttou => .stop
  | .cont => .resume
  | _ => .terminate

end Machine

/-- The processes of a machine, their open files, and its clock in nanoseconds. -/
structure Machine where
  processes : List Machine.Process := []
  entries : Array (Option Machine.Entry) := #[]
  clock : Nat := 0
  lastPid : Pid := 1000
  /-- Whether the supervisor's handler collects each of its children as soon as it has ended. -/
  collectsExits : Bool := true

namespace Machine

/-- The process number of the supervisor, which leads a group of its own. -/
def supervisor : Pid := 1000

/-- The process number under which processes go on whose parent has ended. -/
def orphanage : Pid := 1

/-- The process with a number. -/
def process? (m : Machine) (pid : Pid) : Option Process :=
  m.processes.find? (·.pid = pid)

/-- Replaces a process. -/
def put (m : Machine) (p : Process) : Machine :=
  { m with processes := m.processes.map fun q => if q.pid = p.pid then p else q }

/-- Takes a process out of the table. -/
def remove (m : Machine) (pid : Pid) : Machine :=
  { m with processes := m.processes.filter (·.pid ≠ pid) }

/-- Adds a process, given the number that it gets, and answers this number. -/
def add (m : Machine) (make : Pid → Process) : Pid × Machine :=
  let pid := m.lastPid + 1
  (pid, { m with processes := m.processes ++ [make pid], lastPid := pid })

/-- Adds an open file. -/
def addEntry (m : Machine) (entry : Entry) : Descriptor × Machine :=
  (.file m.entries.size, { m with entries := m.entries.push (some entry) })

/-- The entry with a number. -/
def entry? (m : Machine) (number : Nat) : Option Entry :=
  m.entries[number]?.join

/-- Whether a process that has not ended holds a descriptor. -/
def isHeld (m : Machine) (descriptor : Descriptor) : Bool :=
  m.processes.any fun p => p.isLive && p.descriptors.any (·.2 = descriptor)

/-- The processes in a group, those that have ended included. -/
def members (m : Machine) (group : Pid) : List Process :=
  m.processes.filter (·.group = group)

/-- Sends a signal to every process in a group; answers whether there is one. -/
def signalGroup (m : Machine) (group : Pid) (signal : Signal) : Bool × Machine :=
  (!(m.members group).isEmpty,
    { m with processes := m.processes.map fun p => if p.group = group then p.notify signal else p })

/-- Sends a signal to the process with a number, or to the group with a negated number; answers whether
there is one. -/
def signal (m : Machine) (target : Pid) (signal : Option Signal) : Bool × Machine :=
  match signal with
  | none => ((m.process? target).isSome || !(m.members (-target)).isEmpty, m)
  | some signal =>
    if target < 0 then m.signalGroup (-target) signal
    else
      match m.process? target with
      | some p => (true, m.put (p.notify signal))
      | none => (false, m)

end Machine

end BatchJob
