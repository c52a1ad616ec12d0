import BatchJob.Console.Command
import BatchJob.FileSystem.Basic
import BatchJob.Text.Utf8

/-!
# The operator console

A source of commands, one in each line of a FIFO or a regular file. A line that is not UTF-8 is reported
and consumed; a blank line is passed over; an unterminated rest is a line of its own. A FIFO is opened for
both directions, so that it stays open while its writers come and go.
-/

namespace BatchJob.Console

/-- Why a console gave no command. -/
inductive ConsoleError
  | unavailable
  | open (path : String) (cause : IoError)
  | read (cause : IoError)
  | closed
  deriving DecidableEq, Repr

namespace ConsoleError

/-- The text of a failure. -/
def message : ConsoleError → String
  | unavailable => "No operator console is configured"
  | .open path cause => "Error opening operator console " ++ path ++ ": " ++ cause.message
  | read cause => "Error reading from the operator console: " ++ cause.message
  | closed => "The operator console was closed"

/-- The text of a failure, then the text of the failure below it, if there is one. -/
def chain : ConsoleError → List String
  | .open path cause => [message (.open path cause), cause.message]
  | read cause => [message (read cause), cause.message]
  | e => [e.message]

end ConsoleError

/-- An open console: its node, and what was read from it and not yet given out. -/
structure Source where
  file : OpenFile
  buffer : Bytes := []
  deriving DecidableEq, Repr

namespace Source

/-- How many bytes the console reads at a time. -/
def chunk : Nat := 8192

/-- Opens the console at a path. -/
def openAt (fs : FileSystem) (path : String) : Except ConsoleError (Source × FileSystem) :=
  let access :=
    match fs.lookup path with
    | .ok (.fifo ..) => Access.readWrite
    | _ => Access.read
  match fs.openExisting path access with
  | .ok (file, fs) => .ok ({ file }, fs)
  | .error cause => .error (.open path cause)

/-- The first line of some bytes with its newline, and the bytes after it. -/
def splitLine? : Bytes → Option (Bytes × Bytes)
  | [] => none
  | b :: rest => if b = 10 then some ([b], rest) else (splitLine? rest).map fun (line, after) => (b :: line, after)

/-- The next line with its newline, if it has one; no byte at all is the end of the console. The fuel is
the number of reads at most. -/
def nextLine (fuel : Nat) (s : Source) (fs : FileSystem) : Attempt IoError Bytes × Source × FileSystem :=
  match splitLine? s.buffer with
  | some (line, rest) => (.done line, { s with buffer := rest }, fs)
  | none =>
    match fuel with
    | 0 => (.done s.buffer, { s with buffer := [] }, fs)
    | fuel + 1 =>
      match fs.read s.file chunk with
      | (.done [], file, fs) => (.done s.buffer, { file, buffer := [] }, fs)
      | (.done more, file, fs) => nextLine fuel { file, buffer := s.buffer ++ more } fs
      | (.failed e, file, fs) => (.failed e, { file, buffer := [] }, fs)
      | (.blocked, file, fs) => (.blocked, { s with file }, fs)

/-- The next command. The fuel is the number of lines at most, and of reads for each of them. -/
def nextWithin (fuel reads : Nat) (s : Source) (fs : FileSystem) :
    Attempt ConsoleError Command × Source × FileSystem :=
  match fuel with
  | 0 => (.failed .closed, s, fs)
  | fuel + 1 =>
    match s.nextLine reads fs with
    | (.failed e, s, fs) => (.failed (.read e), s, fs)
    | (.blocked, s, fs) => (.blocked, s, fs)
    | (.done [], s, fs) => (.failed .closed, s, fs)
    | (.done line, s, fs) =>
      match Text.decode? line with
      | none => (.failed (.read .invalidUtf8), s, fs)
      | some text =>
        match Command.ofChars? text with
        | some command => (.done command, s, fs)
        | none => nextWithin fuel reads s fs

/-- How many bytes a console can still give out if nothing is added to it. -/
def available (s : Source) (fs : FileSystem) : Nat :=
  s.buffer.length +
    match fs.node s.file.node with
    | .file _ content => content.size - s.file.offset
    | .fifo _ pipe | .channel pipe => pipe.queue.size
    | _ => 0

/-- The next command of a console. Each line and each read but the last takes a byte, so one more than the
bytes there are is enough of both. -/
def next (s : Source) (fs : FileSystem) : Attempt ConsoleError Command × Source × FileSystem :=
  s.nextWithin (s.available fs + 1) (s.available fs + 1) fs

end Source

end BatchJob.Console
