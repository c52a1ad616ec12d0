import BatchJob.Pipe

/-!
# A pipe with its duplicates

A pipe is reached through handles: its own two ends, and the duplicates that were made of them. A duplicate is named by
how many were made before it. Here calls of all handles are made on one pipe, one after another. A call that has to wait
has done by then what it could do at once, and what it does when it can go on counts as a call of its own; so does the
rest of a write when only a part of it fits.
-/

namespace BatchJob

/-- A pipe, and the duplicates of its ends in the order in which they were made: the side of one that is open, and
nothing for one that is closed. -/
structure SharedPipe where
  pipe : Pipe := {}
  duplicates : List (Option PipeEnd) := []

namespace SharedPipe

/-- What a side of a pipe is reached through. -/
inductive Handle
  | own
  | duplicate (name : Nat)
  deriving DecidableEq, Repr

/-- A call on a pipe, or on a duplicate of one of its ends. -/
inductive Call
  | read (handle : Handle) (n : Nat)
  | write (handle : Handle) (bytes : Bytes)
  | writeAll (bytes : Bytes)
  | setNonblocking (side : PipeEnd)
  | duplicate (side : PipeEnd)
  | close (side : PipeEnd)
  | closeDuplicate (name : Nat)
  deriving DecidableEq, Repr

/-- What a call answers when it succeeds. -/
inductive Answer
  | gave (bytes : Bytes)
  | took (n : Nat)
  | finished
  /-- There is a new duplicate. -/
  | opened (name : Nat)
  deriving DecidableEq, Repr

/-- Why a call failed, on the pipe or on a duplicate. -/
inductive Failure
  | own (error : PipeError)
  | duplicate (cause : IoError)
  deriving DecidableEq, Repr

/-- How a call came out. -/
abbrev Outcome := Attempt Failure Answer

/-- Whether a side can be reached through a handle. -/
def isOpen (s : SharedPipe) (side : PipeEnd) : Handle → Bool
  | .own => s.pipe.isOpen side
  | .duplicate name => s.duplicates[name]? == some (some side)

/-- Makes a call. A duplicate that is closed, or that is one of the other side, is a bad descriptor to it. -/
def perform (s : SharedPipe) : Call → Outcome × SharedPipe
  | .read .own n =>
    let (result, pipe) := s.pipe.read n
    ((result.map .gave).mapError .own, { s with pipe })
  | .read (.duplicate name) n =>
    if s.isOpen .read (.duplicate name) then
      let (result, pipe) := s.pipe.fetch n
      ((result.map .gave).mapError .duplicate, { s with pipe })
    else (.failed (.duplicate (.os .badf)), s)
  | .write .own bytes =>
    let (result, pipe) := s.pipe.write bytes
    ((result.map .took).mapError .own, { s with pipe })
  | .write (.duplicate name) bytes =>
    if s.isOpen .write (.duplicate name) then
      let (result, pipe) := s.pipe.offer bytes
      ((result.map .took).mapError .duplicate, { s with pipe })
    else (.failed (.duplicate (.os .badf)), s)
  | .writeAll bytes =>
    let (result, pipe) := s.pipe.writeAll bytes
    ((result.map fun _ => .finished).mapError .own, { s with pipe })
  | .setNonblocking side =>
    match s.pipe.setNonblocking side with
    | .ok pipe => (.done .finished, { s with pipe })
    | .error e => (.failed (.own e), s)
  | .duplicate side =>
    match s.pipe.duplicate side with
    | .ok pipe =>
      (.done (.opened s.duplicates.length), { pipe, duplicates := s.duplicates ++ [some side] })
    | .error e => (.failed (.own e), s)
  | .close side => (.done .finished, { s with pipe := s.pipe.close side })
  | .closeDuplicate name =>
    match s.duplicates[name]? with
    | some (some side) =>
      (.done .finished, { pipe := s.pipe.dropDuplicate side, duplicates := s.duplicates.set name none })
    | _ => (.failed (.duplicate (.os .badf)), s)

end SharedPipe

end BatchJob
