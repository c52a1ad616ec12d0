import BatchJob.OutputRoutes
import BatchJob.Relay.Plumbing
import BatchJob.Relay.Stats

/-!
# The relay

The loop that moves bytes between the datasets of a job and the child's standard streams, as a machine that
takes one step at a time. `turn?` is the step: it either carries out the first task of the agenda, or, when
the agenda is empty, waits. A wait looks at all watched descriptors at once; if none is ready there is no
step, and the relay stays where it is until another party acts. Other parties act between any two steps
(`advance`), which is how a run is interleaved with the child, with descendants and with the operator.

Every call the relay makes to a dataset is noted in its history, so that what it has read and delivered can
be stated for every moment of a run.

One chunk of input is in flight at a time. It is offered to the child without waiting; while some of it is
left the relay waits for room in the child's input, and otherwise for the input dataset.
-/

namespace BatchJob

/-- Why a run of the relay failed. -/
inductive RelayError
  | pipe (error : PipeError)
  | dataset (error : DatasetError)
  deriving DecidableEq, Repr

namespace RelayError

/-- The text of a failure. -/
def message : RelayError → String
  | pipe error => error.message
  | dataset error => error.message

/-- The text of a failure, then the text of the failure below it, if there is one. -/
def chain : RelayError → List String
  | pipe error => error.chain
  | dataset error => error.chain

end RelayError

/-- A call of the relay to a dataset, with its result. -/
inductive RelayCall
  | read (result : Except DatasetError Bytes)
  | write (channel : OutputChannel) (destination : Destination) (chunk : Bytes) (result : Except DatasetError Unit)
  | close (result : Except DatasetError Unit)

/-- What is left to do before the next wait. -/
inductive RelayTask
  /-- Prepare the input side before the first wait. -/
  | start
  /-- Refill the chunk in flight if it is used up, and offer it to the child. -/
  | serveInput
  /-- Offer what is left of the chunk in flight to the child. -/
  | sendChunk
  /-- Close the input dataset, after the child's input was closed. -/
  | closeInput
  /-- Read a chunk of output. -/
  | serveOutput (channel : OutputChannel)
  /-- Write a chunk of output to its destination. -/
  | deliver (channel : OutputChannel) (chunk : Bytes)
  deriving DecidableEq, Repr

/-- Which watched descriptors a wait found ready. -/
structure Readiness where
  input : Bool := false
  stdin : Bool := false
  stdout : Bool := false
  stderr : Bool := false
  shutdown : Bool := false
  deriving DecidableEq, Repr

namespace Readiness

/-- Whether a pipe or the input was ready. -/
def anyDescriptor (ready : Readiness) : Bool :=
  ready.input || ready.stdin || ready.stdout || ready.stderr

/-- Whether anything was ready, the shutdown signal included. -/
def any (ready : Readiness) : Bool :=
  ready.anyDescriptor || ready.shutdown

end Readiness

/-- The state of a run: the plumbing and the machine that it shares with others, the datasets, and where
the run stands. -/
structure Relay (ω ι δ : Type) where
  plumbing : Plumbing
  machine : ω
  input : ι
  outputs : OutputRoutes δ
  policy : StopPolicy
  bufferSize : Nat
  /-- The last chunk that was read from the input. -/
  chunk : Bytes := []
  /-- How many bytes of it the child's input has taken. -/
  taken : Nat := 0
  stats : RelayStats := {}
  /-- Whether a wait has reported the shutdown signal while output is drained to its end. -/
  draining : Bool := false
  agenda : List RelayTask := [.start]
  /-- How the run ended, once it has. -/
  outcome : Option (Except RelayError Unit) := none
  /-- The calls made to the datasets, the last one first. -/
  history : List RelayCall := []

namespace Relay

variable {ω ι δ : Type}

/-- A run that is about to start. A buffer without room is given room for one byte. -/
def create (plumbing : Plumbing) (machine : ω) (input : ι) (outputs : OutputRoutes δ) (policy : StopPolicy)
    (bufferSize : Nat) : Relay ω ι δ where
  plumbing := plumbing
  machine := machine
  input := input
  outputs := outputs
  policy := policy
  bufferSize := max bufferSize 1

/-- What is left of the chunk in flight. -/
def pending (r : Relay ω ι δ) : Bytes :=
  r.chunk.drop r.taken

/-- Ends the run with a failure. -/
def fail (r : Relay ω ι δ) (e : RelayError) : Relay ω ι δ :=
  { r with outcome := some (.error e), agenda := [] }

/-- Notes a call to a dataset. -/
def noted (r : Relay ω ι δ) (call : RelayCall) : Relay ω ι δ :=
  { r with history := call :: r.history }

/-- Whether both output pipes have reached their end of data. -/
def outputsDrained (r : Relay ω ι δ) : Bool :=
  !r.plumbing.stdout.readOpen && !r.plumbing.stderr.readOpen

/-- Whether the next wait watches the shutdown signal. The signal stays up, so watching it while output is
drained to its end would make every wait return at once. -/
def watchesShutdown (r : Relay ω ι δ) : Bool :=
  !r.draining || r.policy == .signalOnly

variable [DatasetStream ω ι] [DatasetStream ω δ]

/-- Which descriptors the next wait watches. -/
def watched (r : Relay ω ι δ) : Readiness :=
  let waitsForRoom := !r.pending.isEmpty || (DatasetStream.poll r.input r.machine).isNone
  { input := r.plumbing.stdin.writeOpen && !waitsForRoom
    stdin := r.plumbing.stdin.writeOpen && waitsForRoom
    stdout := r.plumbing.stdout.readOpen
    stderr := r.plumbing.stderr.readOpen
    shutdown := r.watchesShutdown }

/-- Which watched descriptors are ready now. -/
def ready (r : Relay ω ι δ) : Readiness :=
  let watched := r.watched
  { input := watched.input && DatasetStream.poll r.input r.machine == some true
    stdin := watched.stdin && r.plumbing.stdin.isWritable
    stdout := watched.stdout && r.plumbing.stdout.isReadable
    stderr := watched.stderr && r.plumbing.stderr.isReadable
    shutdown := watched.shutdown && r.plumbing.shutdown.isReadable }

/-- What a wait puts on the agenda: the input side first, then the two outputs. -/
def tasks (ready : Readiness) : List RelayTask :=
  (if ready.input || ready.stdin then [.serveInput] else []) ++
  (if ready.stdout then [.serveOutput .stdout] else []) ++
  (if ready.stderr then [.serveOutput .stderr] else [])

/-- One wait: absent when nothing watched is ready. -/
def wait? (r : Relay ω ι δ) : Option (Relay ω ι δ) :=
  let ready := r.ready
  if ready.any then
    let r := { r with stats := r.stats.countWait }
    match r.policy with
    | .signalOnly =>
      if ready.shutdown && !ready.anyDescriptor then some { r with outcome := some (.ok ()) }
      else some { r with agenda := tasks ready }
    | .drainToEof => some { r with agenda := tasks ready, draining := r.draining || ready.shutdown }
  else none

/-- Closes the child's input, so that the child sees the end of it; the chunk in flight is dropped, and the
input dataset is to be closed next. -/
def finishInput (r : Relay ω ι δ) (rest : List RelayTask) : Relay ω ι δ :=
  { r with
    chunk := []
    taken := 0
    plumbing := { r.plumbing with stdin := r.plumbing.stdin.close .write }
    agenda := .closeInput :: rest }

/-- Reads the next chunk of input; absent while the dataset has to be waited for. -/
def refill? (r : Relay ω ι δ) (rest : List RelayTask) : Option (Relay ω ι δ) :=
  match DatasetStream.read r.bufferSize r.input r.machine with
  | (.blocked, _, _) => none
  | (.failed e, input, machine) =>
    some (({ r with input, machine }.noted (.read (.error e))).fail (.dataset e))
  | (.done bytes, input, machine) =>
    let r := { r with input, machine }.noted (.read (.ok bytes))
    if bytes.isEmpty then some (r.finishInput rest)
    else some { r with chunk := bytes, taken := 0, agenda := .sendChunk :: rest }

/-- Offers what is left of the chunk in flight to the child once. -/
def send? (r : Relay ω ι δ) (rest : List RelayTask) : Option (Relay ω ι δ) :=
  match r.plumbing.stdin.write r.pending with
  | (.blocked, _) => none
  | (.done n, stdin) =>
    some { r with
      plumbing := { r.plumbing with stdin }
      taken := r.taken + n
      stats := r.stats.add .stdin n
      agenda := rest }
  | (.failed e, _) =>
    if e.isWouldBlock then some { r with agenda := rest }
    else if e.isBroken then some (r.finishInput rest)
    else some (r.fail (.pipe e))

/-- Closes the input dataset. -/
def closeInput (r : Relay ω ι δ) (rest : List RelayTask) : Relay ω ι δ :=
  let (result, input, machine) := DatasetStream.close r.input r.machine
  let r := { r with input, machine }.noted (.close result)
  match result with
  | .ok () => { r with agenda := rest }
  | .error e => r.fail (.dataset e)

/-- Reads a chunk of output, or closes the pipe at its end of data; absent while there is neither. -/
def readOutput? (r : Relay ω ι δ) (channel : OutputChannel) (rest : List RelayTask) :
    Option (Relay ω ι δ) :=
  match (r.plumbing.output channel).read r.bufferSize with
  | (.blocked, _) => none
  | (.failed e, _) => some (r.fail (.pipe e))
  | (.done bytes, pipe) =>
    if bytes.isEmpty then
      some { r with plumbing := r.plumbing.setOutput channel (pipe.close .read), agenda := rest }
    else
      some { r with
        plumbing := r.plumbing.setOutput channel pipe
        agenda := .deliver channel bytes :: rest }

/-- Writes a chunk of output to where its channel goes now. -/
def deliver (r : Relay ω ι δ) (channel : OutputChannel) (chunk : Bytes) (rest : List RelayTask) :
    Relay ω ι δ :=
  let destination := r.outputs.sink ω channel.toChannel
  let (result, outputs, machine) := r.outputs.writeTo destination chunk r.machine
  let r := { r with outputs, machine }.noted (.write channel destination chunk result)
  match result with
  | .ok () => { r with stats := r.stats.add channel.toChannel chunk.length, agenda := rest }
  | .error e => r.fail (.dataset e)

/-- Prepares the input side: an input that is not open is finished at once; otherwise the child's input is
put into non-blocking mode, unless it is closed already. -/
def start (r : Relay ω ι δ) (rest : List RelayTask) : Relay ω ι δ :=
  if DatasetStream.isOpen ω r.input then
    match r.plumbing.stdin.setNonblocking .write with
    | .ok stdin => { r with plumbing := { r.plumbing with stdin }, agenda := rest }
    | .error _ => { r with agenda := rest }
  else r.finishInput rest

/-- Carries out one task. -/
def perform? (r : Relay ω ι δ) (task : RelayTask) (rest : List RelayTask) : Option (Relay ω ι δ) :=
  match task with
  | .start => some (r.start rest)
  | .serveInput => if r.pending.isEmpty then r.refill? rest else r.send? rest
  | .sendChunk => r.send? rest
  | .closeInput => some (r.closeInput rest)
  | .serveOutput channel => r.readOutput? channel rest
  | .deliver channel chunk => some (r.deliver channel chunk rest)

/-- The head of the loop: ends the run once the drained outputs are at their end, and waits otherwise. -/
def loopHead? (r : Relay ω ι δ) : Option (Relay ω ι δ) :=
  if r.draining && r.outputsDrained then some { r with outcome := some (.ok ()) } else r.wait?

/-- One step of the relay; absent when the run has ended or has to wait for another party. -/
def turn? (r : Relay ω ι δ) : Option (Relay ω ι δ) :=
  match r.outcome with
  | some _ => none
  | none =>
    match r.agenda with
    | [] => r.loopHead?
    | task :: rest => r.perform? task rest

/-- What happens next in a run. -/
inductive Event (ω : Type)
  /-- Another party acts on the plumbing. -/
  | outside (action : Plumbing.Action)
  /-- Another party changes the machine on which the datasets live. -/
  | elsewhere (change : ω → ω)
  /-- The relay takes a step, if it can. -/
  | turn

/-- The state after an event. -/
def advance (r : Relay ω ι δ) : Event ω → Relay ω ι δ
  | .outside action => { r with plumbing := r.plumbing.perform action }
  | .elsewhere change => { r with machine := change r.machine }
  | .turn => r.turn?.getD r

/-- The state after a schedule of events. -/
def run (r : Relay ω ι δ) (schedule : List (Event ω)) : Relay ω ι δ :=
  schedule.foldl advance r

end Relay

end BatchJob
