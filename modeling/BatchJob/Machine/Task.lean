import BatchJob.ChildStatus
import BatchJob.FileSystem.Basic
import BatchJob.Text.Octets

/-!
# Tasks

What a process of the rehearsed machine has still to do: a program unrolled into the calls it makes, each
with what follows for every answer. A program is thereby a value, and running it is a matter of taking one
call after the other. Programs know nothing of encodings: the texts in their calls are texts of octets.
-/

namespace BatchJob.Machine

/-- How a path is opened. -/
inductive OpenManner
  | read
  /-- An existing file is emptied, an absent one created. -/
  | truncate
  /-- Every write goes to the end of the file, which is created if it is absent. -/
  | append
  /-- The file is created if it is absent, and what it holds stays. -/
  | readWrite
  deriving DecidableEq, Repr

/-- What a process makes of a signal in place of the usual. -/
inductive Regard
  | ignored
  /-- It goes on, and can see later that the signal came. -/
  | noted
  deriving DecidableEq, Repr

/-- Why a copy came to an end before that of its data. -/
inductive CopyFault
  | read (error : Errno)
  | write (error : Errno)
  deriving DecidableEq, Repr

/-- The regular file that a descriptor stands for, where in it the next byte is read or written, and how many bytes it
has. -/
structure Standing where
  node : NodeId
  position : Nat
  size : Nat
  deriving DecidableEq, Repr

/-- The calls that a process still makes. Descriptors are named by their numbers. -/
inductive Task
  | exit (code : Nat)
  /-- Write all bytes. -/
  | emit (descriptor : Nat) (bytes : Bytes) (next : Option Errno → Task)
  /-- Pass on all that can be read, up to the end of the data, as `turn` changes it, which is given what was noted at
  the bytes before and answers what is to be noted; what was noted last is answered. -/
  | convert (source target : Nat) (noted : List Nat) (turn : List Nat → Bytes → List Nat × Bytes)
      (next : Option CopyFault → List Nat → Task)
  /-- Read up to the end of the data, or until there is enough; the chunks read before stand last one first. -/
  | gather (descriptor : Nat) (before : List Bytes) (isEnough : List Bytes → Bool)
      (next : Except Errno Bytes → Task)
  /-- Read byte by byte until there is enough; the bytes read before stand last one first. Answers whether there was
  enough before the data came to an end. -/
  | readBytes (descriptor : Nat) (before : Bytes) (isEnough : Bytes → Bool) (next : Bytes → Bool → Task)
  /-- Write bytes again and again, until they cannot be written. -/
  | flood (descriptor : Nat) (bytes : Bytes) (next : Errno → Task)
  /-- Let a number of nanoseconds pass. -/
  | pause (duration : Nat) (next : Task)
  | openAt (descriptor : Nat) (path : String) (manner : OpenManner) (next : Option Errno → Task)
  /-- Let a second descriptor stand for the same open file; answers whether the first one is open. -/
  | duplicate (source target : Nat) (next : Bool → Task)
  | close (descriptor : Nat) (next : Task)
  /-- Open both ends of a new pipe. -/
  | connect (reader writer : Nat) (next : Task)
  /-- Start a process that shares all descriptors. -/
  | fork (child : Task) (next : Pid → Task)
  /-- Wait for a process that this one has started. -/
  | await (pid : Pid) (next : ChildStatus → Task)
  /-- Wait for a process that this one has started, or until a signal is noted; answers the status of the process, or
  no status for a signal. -/
  | awaitOrNotice (pid : Pid) (next : Option ChildStatus → Task)
  /-- The status of a process that this one has started, if it has ended; its status is collected. -/
  | poll (pid : Pid) (next : Option ChildStatus → Task)
  /-- Say what a signal does from now on, the usual where no regard is given. -/
  | regard (signal : Signal) (regard : Option Regard) (next : Task)
  /-- Take the first of the signals that are noted. -/
  | takeNoted (next : Option Signal → Task)
  /-- Become another program; goes on only if that fails. -/
  | execute (path : String) (arguments : List String) (environment : List (String × String))
      (next : Errno → Task)
  /-- Send a signal, if one is given; answers whether there is such a process. -/
  | send (target : Pid) (signal : Option Signal) (next : Bool → Task)
  /-- Look at the file system, at the own process number and at that of the parent. -/
  | look (next : FileSystem → Pid → Pid → Task)
  /-- Go to another directory. -/
  | enter (path : String) (next : Option Errno → Task)
  /-- Change names in the file system. -/
  | alter (change : FileSystem → Except Errno FileSystem) (next : Option Errno → Task)
  /-- Go back by a number of bytes, if the descriptor stands for a regular file. -/
  | rewind (descriptor n : Nat) (next : Task)
  /-- Lead a process group of its own; answers whether the process did not do that before. -/
  | detach (next : Bool → Task)
  /-- The regular file that a descriptor stands for, if it is one. -/
  | measure (descriptor : Nat) (next : Option Standing → Task)
  /-- Say which permissions new files do not get; answers which ones they did not get before. -/
  | mask (bits : Nat) (next : Nat → Task)
  /-- Go to a position in the regular file that a descriptor stands for; answers whether it is one. -/
  | seek (descriptor position : Nat) (next : Bool → Task)

namespace Task

instance : Inhabited Task := ⟨exit 0⟩

/-- The numbers of the three standard descriptors. -/
def standardInput : Nat := 0
def standardOutput : Nat := 1
def standardError : Nat := 2

end Task

end BatchJob.Machine
