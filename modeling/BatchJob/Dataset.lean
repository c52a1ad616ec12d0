import BatchJob.Dataset.Buffer
import BatchJob.Dataset.Stream
import BatchJob.FileSystem.Basic
import BatchJob.Log
import BatchJob.Text.Utf8

/-!
# Datasets

A named sequential stream over an open node of the file system, buffered in the direction it was opened
in. A write is passed on before it returns, so that no output is held back behind a later wait. What a
failed write leaves in the buffer is tried again by the next write and by the close.
-/

namespace BatchJob

namespace Dataset

/-- An open stream: its buffer and its node. -/
inductive Handle
  | reader (buffer : Bytes) (file : OpenFile)
  | writer (buffer : Bytes) (file : OpenFile)
  deriving DecidableEq, Repr

end Dataset

/-- A dataset; without a handle it is not open. -/
structure Dataset where
  name : String
  handle : Option Dataset.Handle
  deriving DecidableEq, Repr

namespace Dataset

/-- How many bytes `readText` asks for at a time. -/
def textChunk : Nat := 4096

/-- A dataset that is not open. -/
def unopened (name : String) : Dataset :=
  ⟨name, none⟩

/-- A dataset over a node that is open already. -/
def ofFile (name : String) (file : OpenFile) (mode : OpenMode) : Dataset :=
  match mode with
  | .read => ⟨name, some (.reader [] file)⟩
  | .write => ⟨name, some (.writer [] file)⟩

/-- Opens the node that a path leads to in the given direction. -/
def openPath (fs : FileSystem) (path : String) :
    OpenMode → Except IoError (OpenFile × FileSystem)
  | .read => fs.openExisting path .read
  | .write => fs.openCreate path

/-- Opens the dataset allocated at a path. Unless it is `required`, one that is not allocated or cannot be
opened is left unopened; the failure is logged then, except that nothing exists at the path. -/
def openAt (fs : FileSystem) (name : String) (path : Option String) (mode : OpenMode) (required : Bool) :
    Except DatasetError (Dataset × List LogLine × FileSystem) :=
  match path with
  | none => if required then .error (.unallocated name) else .ok (unopened name, [], fs)
  | some path =>
    match openPath fs path mode with
    | .ok (file, fs) => .ok (ofFile name file mode, [], fs)
    | .error cause =>
      if required then .error (.open name path cause)
      else if cause = .os .noent then .ok (unopened name, [], fs)
      else
        let text := "Could not open DD " ++ name ++ " (" ++ path ++ "): " ++ cause.message
        .ok (unopened name, [⟨.warn, text⟩], fs)

/-- Whether the stream is open. -/
def isOpen (d : Dataset) : Bool :=
  d.handle.isSome

/-- The device behind a dataset gives bytes. -/
def fetch (device : OpenFile × FileSystem) (n : Nat) :
    Attempt IoError Bytes × OpenFile × FileSystem :=
  device.2.read device.1 n

/-- The device behind a dataset takes some of the bytes. One that has no room reports so at once. -/
def offer (device : OpenFile × FileSystem) (bytes : Bytes) :
    Except IoError Nat × OpenFile × FileSystem :=
  match device.2.write device.1 bytes with
  | (.done n, device) => (.ok n, device)
  | (.failed e, device) => (.error e, device)
  | (.blocked, device) => (.error (.os .again), device)

/-- Reads up to `n` bytes; no byte at all is the end of the data. -/
def read (n : Nat) (d : Dataset) (fs : FileSystem) :
    Attempt DatasetError Bytes × Dataset × FileSystem :=
  match d.handle with
  | none => (.done [], d, fs)
  | some (.writer ..) => (.failed (.wrongMode d.name .write), d, fs)
  | some (.reader buffer file) =>
    let (result, buffer, file, fs) := Buffer.read fetch buffer n (file, fs)
    (result.mapError (.read d.name), { d with handle := some (.reader buffer file) }, fs)

/-- Writes all of the given bytes. -/
def write (bytes : Bytes) (d : Dataset) (fs : FileSystem) :
    Except DatasetError Unit × Dataset × FileSystem :=
  match d.handle with
  | none => (.error (.notOpen d.name), d, fs)
  | some (.reader ..) => (.error (.wrongMode d.name .read), d, fs)
  | some (.writer buffer file) =>
    let (result, buffer, file, fs) := Buffer.writeThrough offer buffer bytes (file, fs)
    (result.mapError (.write d.name), { d with handle := some (.writer buffer file) }, fs)

/-- Passes on what is buffered and releases the stream; closing a closed stream changes nothing. -/
def close (d : Dataset) (fs : FileSystem) : Except DatasetError Unit × Dataset × FileSystem :=
  match d.handle with
  | none => (.ok (), d, fs)
  | some (.reader _ file) => (.ok (), unopened d.name, fs.close file)
  | some (.writer buffer file) =>
    let (result, file, fs) := Buffer.release offer buffer (file, fs)
    (result.mapError (.write d.name), unopened d.name, fs.close file)

/-- Whether the node to wait on before the next read is ready. A stream that is not an open reader has
none, and neither has one with bytes in its buffer. -/
def poll (d : Dataset) (fs : FileSystem) : Option Bool :=
  match d.handle with
  | some (.reader [] file) => some (fs.isReadable file)
  | _ => none

/-- Gives up a dataset: closes it, and logs the failure if there is one. -/
def discard (d : Dataset) (fs : FileSystem) : List LogLine × FileSystem :=
  match d.close fs with
  | (.ok (), _, fs) => ([], fs)
  | (.error e, _, fs) => ([⟨.warn, e.message⟩], fs)

/-- Reads chunks until one is empty; answers them joined. A read that has to wait counts as empty. The
fuel is the number of chunks at most. -/
def readChunks (fuel : Nat) (d : Dataset) (fs : FileSystem) :
    Except DatasetError Bytes × Dataset × FileSystem :=
  match fuel with
  | 0 => (.ok [], d, fs)
  | fuel + 1 =>
    match d.read textChunk fs with
    | (.failed e, d, fs) => (.error e, d, fs)
    | (.blocked, d, fs) => (.ok [], d, fs)
    | (.done [], d, fs) => (.ok [], d, fs)
    | (.done chunk, d, fs) =>
      match readChunks fuel d fs with
      | (.ok rest, d, fs) => (.ok (chunk ++ rest), d, fs)
      | (.error e, d, fs) => (.error e, d, fs)

/-- How many bytes a dataset can still give if nothing is added to it. -/
def available (d : Dataset) (fs : FileSystem) : Nat :=
  match d.handle with
  | some (.reader buffer file) =>
    buffer.length +
      match fs.node file.node with
      | .file _ content => content.size - file.offset
      | .fifo _ pipe | .channel pipe => pipe.queue.size
      | _ => 0
  | _ => 0

/-- Reads the rest of the data as text, with U+FFFD for each part that is not UTF-8; a stream that is not
open has none. Every chunk but the last has a byte, so one more than the bytes there are is enough. -/
def readText (d : Dataset) (fs : FileSystem) :
    Except DatasetError (Option String) × Dataset × FileSystem :=
  if d.isOpen then
    match d.readChunks (d.available fs + 1) fs with
    | (.ok bytes, d, fs) => (.ok (some (String.ofList (Text.decodeLossy bytes))), d, fs)
    | (.error e, d, fs) => (.error e, d, fs)
  else (.ok none, d, fs)

instance : DatasetStream FileSystem Dataset where
  name := Dataset.name
  isOpen := Dataset.isOpen
  read := Dataset.read
  write := Dataset.write
  close := Dataset.close
  poll := Dataset.poll

end Dataset

end BatchJob
