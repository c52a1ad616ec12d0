import BatchJob.ByteQueue
import BatchJob.IoError

/-!
# Buffers in front of a device

A dataset reads and writes its device through a buffer of 8192 bytes. The device is any state with a call
that gives bytes or takes some of those offered; it may fail at any call, and it need not take all.

`passOn` is the one loop through which bytes reach the device: it offers what is left until nothing is, or
a call fails. Small writes gather in the buffer, large ones go past it after it was emptied. A read that is
not smaller than the buffer goes past an empty one; every other read is served from the buffer, which is
filled by one call when it is empty.
-/

namespace BatchJob.Buffer

/-- How many bytes a buffer holds. -/
def capacity : Nat := 8192

variable {δ : Type}

/-- Offers bytes to a device until it has taken all of them or fails; answers what it has not taken. -/
def passOn (offer : δ → Bytes → Except IoError Nat × δ) (bytes : Bytes) (device : δ) :
    Except IoError Unit × Bytes × δ :=
  if h : bytes = [] then (.ok (), [], device)
  else
    match offer device bytes with
    | (.error e, device) => (.error e, bytes, device)
    | (.ok n, device) =>
      if hn : n = 0 then (.error .writeZero, bytes, device)
      else
        have : (bytes.drop n).length < bytes.length := by
          have := List.length_pos_iff.mpr h
          simp only [List.length_drop]
          omega
        passOn offer (bytes.drop n) device
termination_by bytes.length

/-- Accepts bytes to be written: into the buffer if they leave room in it, past it if they are at least as
many as it holds, and in any other case into the buffer after it was emptied. -/
def accept (offer : δ → Bytes → Except IoError Nat × δ) (buffer bytes : Bytes) (device : δ) :
    Except IoError Unit × Bytes × δ :=
  let room := capacity - buffer.length
  if bytes.length < room then (.ok (), buffer ++ bytes, device)
  else
    let (made, buffer, device) :=
      if room < bytes.length then passOn offer buffer device else (.ok (), buffer, device)
    match made with
    | .error e => (.error e, buffer, device)
    | .ok () =>
      if capacity ≤ bytes.length then
        let (result, _, device) := passOn offer bytes device
        (result, buffer, device)
      else (.ok (), buffer ++ bytes, device)

/-- Accepts bytes and then passes on all that is buffered. -/
def writeThrough (offer : δ → Bytes → Except IoError Nat × δ) (buffer bytes : Bytes) (device : δ) :
    Except IoError Unit × Bytes × δ :=
  match accept offer buffer bytes device with
  | (.error e, buffer, device) => (.error e, buffer, device)
  | (.ok (), buffer, device) => passOn offer buffer device

/-- Gives up a buffer: passes it on, and if that fails once more, without regard to the second result. -/
def release (offer : δ → Bytes → Except IoError Nat × δ) (buffer : Bytes) (device : δ) :
    Except IoError Unit × δ :=
  match passOn offer buffer device with
  | (.ok (), _, device) => (.ok (), device)
  | (.error e, buffer, device) => (.error e, (passOn offer buffer device).2.2)

/-- Reads up to `n` bytes; answers them with the new buffer and the device. -/
def read (fetch : δ → Nat → Attempt IoError Bytes × δ) (buffer : Bytes) (n : Nat) (device : δ) :
    Attempt IoError Bytes × Bytes × δ :=
  if buffer.isEmpty then
    if capacity ≤ n then
      let (result, device) := fetch device n
      (result, [], device)
    else
      match fetch device capacity with
      | (.done filled, device) => (.done (filled.take n), filled.drop n, device)
      | (.failed e, device) => (.failed e, [], device)
      | (.blocked, device) => (.blocked, [], device)
  else (.done (buffer.take n), buffer.drop n, device)

end BatchJob.Buffer
