import BatchJob.ByteQueue
import BatchJob.IoError

/-!
# Pipes

An anonymous pipe: a bounded queue of bytes with two ends that are closed independently. Besides its own
two ends a pipe may have duplicates, held by other parties. A pipe is at its end of data when it is empty
and neither its own write end nor a duplicate of it is open; it is broken when the same holds of the read
side. The non-blocking mode of an end is shared with the duplicates of that end.
-/

namespace BatchJob

/-- One of the two ends of a pipe. -/
inductive PipeEnd
  | read
  | write
  deriving DecidableEq, Repr

/-- The display name of an end. -/
def PipeEnd.name : PipeEnd → String
  | .read => "Read"
  | .write => "Write"

/-- Why an operation on a pipe's own end failed. -/
inductive PipeError
  | closed (side : PipeEnd)
  | read (cause : IoError)
  | write (cause : IoError)
  deriving DecidableEq, Repr

namespace PipeError

/-- The text of a failure. -/
def message : PipeError → String
  | closed side => "The " ++ side.name ++ " end of the pipe is closed"
  | read cause => "Error reading from pipe: " ++ cause.message
  | write cause => "Error writing to pipe: " ++ cause.message

/-- The failure of the system below this one, if there is one. -/
def cause? : PipeError → Option IoError
  | closed _ => none
  | read cause => some cause
  | write cause => some cause

/-- The text of a failure, then the text of the failure below it, if there is one. -/
def chain (e : PipeError) : List String :=
  e.message :: e.cause?.toList.map IoError.message

/-- Whether a write failed because nothing reads the other end any more. -/
def isBroken : PipeError → Bool
  | write (.os .pipe) => true
  | _ => false

/-- Whether a non-blocking write found the pipe full. -/
def isWouldBlock : PipeError → Bool
  | write (.os .again) => true
  | _ => false

end PipeError

/-- A pipe: its bytes, its own two ends, the open duplicates of each, and the mode of each side. -/
structure Pipe where
  queue : ByteQueue := .empty
  readOpen : Bool := true
  writeOpen : Bool := true
  readDuplicates : Nat := 0
  writeDuplicates : Nat := 0
  readNonblocking : Bool := false
  writeNonblocking : Bool := false
  deriving Inhabited

namespace Pipe

/-- How many bytes a pipe holds at most. -/
def capacity : Nat := 65536

/-- Whether anybody can still read. -/
def hasReader (p : Pipe) : Bool :=
  p.readOpen || 0 < p.readDuplicates

/-- Whether anybody can still write. -/
def hasWriter (p : Pipe) : Bool :=
  p.writeOpen || 0 < p.writeDuplicates

/-- How many more bytes fit. -/
def room (p : Pipe) : Nat :=
  capacity - p.queue.size

/-- Whether a wait for reading would return at once. -/
def isReadable (p : Pipe) : Bool :=
  !p.queue.isEmpty || !p.hasWriter

/-- Whether a wait for writing would return at once. -/
def isWritable (p : Pipe) : Bool :=
  0 < p.room || !p.hasReader

/-- Whether an end is open. -/
def isOpen (p : Pipe) : PipeEnd → Bool
  | .read => p.readOpen
  | .write => p.writeOpen

/-- Takes up to `n` bytes through any handle of the read side. -/
def fetch (p : Pipe) (n : Nat) : Attempt IoError Bytes × Pipe :=
  if n = 0 then (.done [], p)
  else if !p.queue.isEmpty then
    let (bytes, queue) := p.queue.take n
    (.done bytes, { p with queue })
  else if !p.hasWriter then (.done [], p)
  else if p.readNonblocking then (.failed (.os .again), p)
  else (.blocked, p)

/-- Offers bytes through any handle of the write side; the pipe takes as many from the start as fit. -/
def offer (p : Pipe) (bytes : Bytes) : Attempt IoError Nat × Pipe :=
  if bytes.isEmpty then (.done 0, p)
  else if !p.hasReader then (.failed (.os .pipe), p)
  else if p.room = 0 then
    if p.writeNonblocking then (.failed (.os .again), p) else (.blocked, p)
  else
    let accepted := bytes.take p.room
    (.done accepted.length, { p with queue := p.queue.append accepted })

/-- Takes up to `n` bytes through the pipe's own read end. -/
def read (p : Pipe) (n : Nat) : Attempt PipeError Bytes × Pipe :=
  if p.readOpen then
    let (result, p) := p.fetch n
    (result.mapError .read, p)
  else (.failed (.closed .read), p)

/-- Offers bytes through the pipe's own write end. -/
def write (p : Pipe) (bytes : Bytes) : Attempt PipeError Nat × Pipe :=
  if p.writeOpen then
    let (result, p) := p.offer bytes
    (result.mapError .write, p)
  else (.failed (.closed .write), p)

/-- Writes all bytes through the pipe's own write end, in as many offers as it takes. -/
def writeAll (p : Pipe) (bytes : Bytes) : Attempt PipeError Unit × Pipe :=
  if h : bytes = [] then (.done (), p)
  else
    match p.write bytes with
    | (.done n, p) =>
      if hn : n = 0 then (.failed (.write .writeZero), p)
      else
        have : (bytes.drop n).length < bytes.length := by
          have := List.length_pos_iff.mpr h
          simp only [List.length_drop]
          omega
        p.writeAll (bytes.drop n)
    | (.failed e, p) => (.failed e, p)
    | (.blocked, p) => (.blocked, p)
termination_by bytes.length

/-- Closes the pipe's own end; closing a closed end changes nothing. -/
def close (p : Pipe) : PipeEnd → Pipe
  | .read => { p with readOpen := false }
  | .write => { p with writeOpen := false }

/-- Opens one more handle on the side of an own end that is open. -/
def duplicate (p : Pipe) (side : PipeEnd) : Except PipeError Pipe :=
  if p.isOpen side then
    .ok (match side with
      | .read => { p with readDuplicates := p.readDuplicates + 1 }
      | .write => { p with writeDuplicates := p.writeDuplicates + 1 })
  else .error (.closed side)

/-- Closes one duplicate of an end. -/
def dropDuplicate (p : Pipe) : PipeEnd → Pipe
  | .read => { p with readDuplicates := p.readDuplicates - 1 }
  | .write => { p with writeDuplicates := p.writeDuplicates - 1 }

/-- Puts the side of an own end that is open into non-blocking mode. -/
def setNonblocking (p : Pipe) (side : PipeEnd) : Except PipeError Pipe :=
  if p.isOpen side then
    .ok (match side with
      | .read => { p with readNonblocking := true }
      | .write => { p with writeNonblocking := true })
  else .error (.closed side)

end Pipe

end BatchJob
