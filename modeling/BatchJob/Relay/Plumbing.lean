import BatchJob.Channel
import BatchJob.Pipe
import BatchJob.Shutdown

/-!
# Plumbing

What the relay shares with the child and with whoever posts the shutdown signal: the three pipes and the
signal. The pipes' own ends are the relay's; the ends that the child and its descendants hold are the
duplicates. Beside each pipe stands what has passed through the child's ends of it so far, so that the
accounts of a pipe can be stated: what went in is what came out and what is queued.

Everything another party can do to the plumbing is an `Action`.
-/

namespace BatchJob

/-- A stream that the child writes. -/
inductive OutputChannel
  | stdout
  | stderr
  deriving DecidableEq, Repr

/-- An output stream as one of the three standard streams. -/
def OutputChannel.toChannel : OutputChannel → Channel
  | .stdout => .stdout
  | .stderr => .stderr

/-- The three pipes, the shutdown signal, and the traffic of the child's ends, each as the list of its
transfers with the last one first. -/
structure Plumbing where
  stdin : Pipe
  stdout : Pipe
  stderr : Pipe
  shutdown : ShutdownSignal := {}
  /-- What the child has read. -/
  received : List Bytes := []
  /-- What the child and its descendants have written to each output pipe. -/
  wroteStdout : List Bytes := []
  wroteStderr : List Bytes := []

namespace Plumbing

/-- The child's ends are open once and the relay holds the other end of each pipe. -/
def fresh : Plumbing where
  stdin := { readOpen := false, readDuplicates := 1 }
  stdout := { writeOpen := false, writeDuplicates := 1 }
  stderr := { writeOpen := false, writeDuplicates := 1 }

/-- What another party can do. -/
inductive Action
  /-- Post the shutdown signal. -/
  | post
  /-- Write bytes to an output pipe, as far as they fit. -/
  | emit (channel : OutputChannel) (bytes : Bytes)
  /-- Open one more handle on the write end of an output pipe. -/
  | share (channel : OutputChannel)
  /-- Close one handle on the write end of an output pipe. -/
  | endOutput (channel : OutputChannel)
  /-- Read up to `n` bytes of input. -/
  | take (n : Nat)
  /-- Close one handle on the read end of the input pipe. -/
  | endInput
  deriving DecidableEq, Repr

/-- The pipe of an output stream. -/
def output (p : Plumbing) : OutputChannel → Pipe
  | .stdout => p.stdout
  | .stderr => p.stderr

/-- Replaces the pipe of an output stream. -/
def setOutput (p : Plumbing) (channel : OutputChannel) (pipe : Pipe) : Plumbing :=
  match channel with
  | .stdout => { p with stdout := pipe }
  | .stderr => { p with stderr := pipe }

/-- What was written to an output pipe so far. -/
def wrote (p : Plumbing) : OutputChannel → Bytes
  | .stdout => p.wroteStdout.reverse.flatten
  | .stderr => p.wroteStderr.reverse.flatten

/-- What the child has read so far. -/
def childInput (p : Plumbing) : Bytes :=
  p.received.reverse.flatten

/-- Notes a write to an output pipe. -/
def noteWrite (p : Plumbing) (channel : OutputChannel) (bytes : Bytes) : Plumbing :=
  match channel with
  | .stdout => { p with wroteStdout := bytes :: p.wroteStdout }
  | .stderr => { p with wroteStderr := bytes :: p.wroteStderr }

/-- Whether the child or a descendant still holds the write end of an output pipe. -/
def holdsOutput (p : Plumbing) (channel : OutputChannel) : Bool :=
  0 < (p.output channel).writeDuplicates

/-- Carries out what another party does. A write or a read through a handle that is not open any more is
without effect, and so is a write that nobody can read. -/
def perform (p : Plumbing) : Action → Plumbing
  | .post => { p with shutdown := p.shutdown.post }
  | .emit channel bytes =>
    if p.holdsOutput channel then
      match (p.output channel).offer bytes with
      | (.done n, pipe) => (p.setOutput channel pipe).noteWrite channel (bytes.take n)
      | _ => p
    else p
  | .share channel =>
    if p.holdsOutput channel then
      let pipe := p.output channel
      p.setOutput channel { pipe with writeDuplicates := pipe.writeDuplicates + 1 }
    else p
  | .endOutput channel => p.setOutput channel ((p.output channel).dropDuplicate .write)
  | .take n =>
    if 0 < p.stdin.readDuplicates then
      match p.stdin.fetch n with
      | (.done bytes, stdin) => { p with stdin, received := bytes :: p.received }
      | _ => p
    else p
  | .endInput => { p with stdin := p.stdin.dropDuplicate .read }

end Plumbing

end BatchJob
