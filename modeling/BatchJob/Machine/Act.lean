import BatchJob.Machine.Task

/-!
# Acts

A part of a program: what it does on the way to a value. An act is given what comes after it and answers the whole
task, so that one act follows another one by being part of what comes after it; an act that exits leaves all of
that out.
-/

namespace BatchJob.Machine

/-- What a program does on the way to a value. -/
def Act (α : Type) : Type :=
  (α → Task) → Task

namespace Act

instance : Monad Act where
  pure a k := k a
  bind act next k := act fun a => next a k

/-- Ends the program. -/
def exit {α : Type} (code : Nat) : Act α := fun _ =>
  .exit code

/-- Writes a text. -/
def write (descriptor : Nat) (text : String) : Act (Option Errno) := fun k =>
  .emit descriptor (Text.toBytes text) k

/-- Writes a text, whatever comes of it. -/
def say (descriptor : Nat) (text : String) : Act Unit := do
  discard (write descriptor text)

/-- Writes a line to the standard error. -/
def complain (text : String) : Act Unit :=
  say Task.standardError (text ++ "\n")

/-- Reads up to the end of the data. -/
def readAll (descriptor : Nat) : Act (Except Errno String) := fun k =>
  .gather descriptor [] (fun _ => false) fun result => k (result.map Text.ofBytes)

/-- Reads until there is enough, which is decided over the number of bytes and that of line ends. -/
def readEnough (descriptor : Nat) (isEnough : Nat → Nat → Bool) : Act (Except Errno String) := fun k =>
  let enough (chunks : List Bytes) : Bool :=
    isEnough ((chunks.map List.length).foldl (· + ·) 0) ((chunks.map fun chunk => chunk.count 10).foldl (· + ·) 0)
  .gather descriptor [] enough fun result => k (result.map Text.ofBytes)

/-- Passes on all that can be read, as `turn` changes it, which is given what was noted at the bytes before. -/
def convert (source target : Nat) (noted : List Nat) (turn : List Nat → Bytes → List Nat × Bytes) :
    Act (Option CopyFault × List Nat) := fun k =>
  .convert source target noted turn fun fault noted => k (fault, noted)

/-- Passes on all that can be read. -/
def copy (source target : Nat) : Act (Option CopyFault) := do
  return (← convert source target [] fun noted bytes => (noted, bytes)).1

/-- The regular file that a descriptor stands for, if it is one. -/
def measure (descriptor : Nat) : Act (Option Standing) := fun k =>
  .measure descriptor k

/-- Goes back by a number of bytes, if the descriptor stands for a regular file. -/
def rewind (descriptor n : Nat) : Act Unit := fun k =>
  .rewind descriptor n (k ())

/-- Goes to a position, if the descriptor stands for a regular file; answers whether it does. -/
def seek (descriptor position : Nat) : Act Bool := fun k =>
  .seek descriptor position k

/-- The permissions that new files do not get. -/
def mask : Act Nat := fun k =>
  .mask 0 fun bits => .mask bits fun _ => k bits

/-- Becomes another program; answers why that fails. -/
def execute (path : String) (arguments : List String) (environment : List (String × String)) : Act Errno := fun k =>
  .execute path arguments environment k

/-- Reads byte by byte until there is enough, which is decided over what was read from its end; answers whether there
was enough. -/
def readUntil (descriptor : Nat) (isEnough : List Char → Bool) : Act (String × Bool) := fun k =>
  .readBytes descriptor [] (fun bytes => isEnough (bytes.map Text.octet)) fun bytes found =>
    k (Text.ofBytes bytes, found)

/-- Reads one line, without its end; answers whether its end came. -/
def readLine (descriptor : Nat) : Act (String × Bool) := do
  let (text, found) ← readUntil descriptor fun text => text.head? == some '\n'
  return (if found then String.ofList text.toList.dropLast else text, found)

/-- Closes a descriptor. -/
def close (descriptor : Nat) : Act Unit := fun k =>
  .close descriptor (k ())

/-- Opens a path. -/
def openAt (descriptor : Nat) (path : String) (manner : OpenManner) : Act (Option Errno) := fun k =>
  .openAt descriptor path manner k

/-- Lets a second descriptor stand for the same open file; answers whether the first one is open. -/
def duplicate (source target : Nat) : Act Bool := fun k =>
  .duplicate source target k

/-- Looks at the file system. -/
def look : Act FileSystem := fun k =>
  .look fun fs _ _ => k fs

/-- The process number of the program. -/
def ownPid : Act Pid := fun k =>
  .look fun _ pid _ => k pid

/-- The process number of the parent. -/
def parentPid : Act Pid := fun k =>
  .look fun _ _ parent => k parent

/-- Changes names in the file system. -/
def alter (change : FileSystem → Except Errno FileSystem) : Act (Option Errno) := fun k =>
  .alter change k

/-- The whole content of a file. -/
def contentOf (descriptor : Nat) (path : String) : Act (Except Errno String) := do
  match ← openAt descriptor path .read with
  | some e => return .error e
  | none =>
    let content ← readAll descriptor
    close descriptor
    return content

/-- The task that an act is when nothing comes after it. -/
def toTask (act : Act Unit) : Task :=
  act fun _ => .exit 0

end Act

end BatchJob.Machine
