import BatchJob.Dataset

/-!
# Datasets that are written over any device

What a dataset does with the bytes that it is to write is the same whatever is behind it. Here that is any state with a
call that offers bytes to it. Nothing is known of the call but that the device takes a first part of what it is offered,
or fails and takes nothing; and what it has received is noted beside it. A call that a signal interrupts is made again
until it is not, and only then has the offer been answered.

A dataset over an open node is such an outlet with the node as its device (`Outlet.dataset`).
-/

namespace BatchJob

/-- A device with the bytes it has received. -/
structure Receiver (δ : Type) where
  device : δ
  received : Bytes := []

/-- A dataset that is written, over a device; without a buffer it is not open. -/
structure Outlet (δ : Type) where
  name : String
  buffer : Option Bytes
  receiver : Receiver δ

/-- A call to a dataset that is written. -/
inductive OutletCall
  | write (bytes : Bytes)
  | close
  deriving DecidableEq, Repr

namespace OutletCall

/-- The bytes that a call is to write. -/
def bytes : OutletCall → Bytes
  | write bytes => bytes
  | close => []

/-- Makes calls one after another, whatever is answered; each comes with its answer. -/
def performAll {σ : Type} (perform : OutletCall → σ → Except DatasetError Unit × σ) :
    List OutletCall → σ → List (OutletCall × Except DatasetError Unit) × σ
  | [], s => ([], s)
  | call :: calls, s =>
    let (answer, s) := perform call s
    let (answers, s) := performAll perform calls s
    ((call, answer) :: answers, s)

end OutletCall

/-- Makes a call to a dataset. -/
def Dataset.perform (call : OutletCall) (state : Dataset × FileSystem) :
    Except DatasetError Unit × Dataset × FileSystem :=
  match call with
  | .write bytes => state.1.write bytes state.2
  | .close => state.1.close state.2

variable {δ : Type} (offer : δ → Bytes → Except IoError Nat × δ)

/-- Offers bytes to a device; it has received those that it takes. -/
def Receiver.take (r : Receiver δ) (bytes : Bytes) : Except IoError Nat × Receiver δ :=
  match offer r.device bytes with
  | (.ok n, device) => (.ok n, ⟨device, r.received ++ bytes.take n⟩)
  | (.error e, device) => (.error e, ⟨device, r.received⟩)

namespace Outlet

/-- A dataset that was just opened over a device. -/
def opened (name : String) (device : δ) : Outlet δ :=
  { name, buffer := some [], receiver := { device } }

/-- Writes all of the given bytes. -/
def write (bytes : Bytes) (o : Outlet δ) : Except DatasetError Unit × Outlet δ :=
  match o.buffer with
  | none => (.error (.notOpen o.name), o)
  | some buffer =>
    let (result, buffer, receiver) := Buffer.writeThrough (Receiver.take offer) buffer bytes o.receiver
    (result.mapError (.write o.name), { o with buffer := some buffer, receiver })

/-- Passes on what is buffered and releases the stream; closing a closed stream changes nothing. -/
def close (o : Outlet δ) : Except DatasetError Unit × Outlet δ :=
  match o.buffer with
  | none => (.ok (), o)
  | some buffer =>
    let (result, receiver) := Buffer.release (Receiver.take offer) buffer o.receiver
    (result.mapError (.write o.name), { o with buffer := none, receiver })

/-- Makes a call. -/
def perform (call : OutletCall) (o : Outlet δ) : Except DatasetError Unit × Outlet δ :=
  match call with
  | .write bytes => o.write offer bytes
  | .close => o.close offer

/-- Gives up a dataset: closes it, and logs the failure if there is one. -/
def discard (o : Outlet δ) : List LogLine × Receiver δ :=
  match o.close offer with
  | (.ok (), o) => ([], o.receiver)
  | (.error e, o) => ([⟨.warn, e.message⟩], o.receiver)

/-- The dataset over the node that is the device of an outlet, with the file system. -/
def dataset (o : Outlet (OpenFile × FileSystem)) : Dataset × FileSystem :=
  let (file, fs) := o.receiver.device
  match o.buffer with
  | some buffer => (⟨o.name, some (.writer buffer file)⟩, fs)
  | none => (.unopened o.name, fs.close file)

end Outlet

end BatchJob
