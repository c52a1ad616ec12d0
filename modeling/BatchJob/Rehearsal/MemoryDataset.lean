import BatchJob.Dataset.Stream

/-!
# Datasets in memory

A dataset whose content is held in memory, for rehearsing a job. It counts the calls made to it and can be
told to fail at one of them. It never has to be waited for.
-/

namespace BatchJob.Rehearsal

/-- A dataset in memory. What was written to it is kept as the list of the writes, the last one first. -/
structure MemoryDataset where
  name : String
  isOpen : Bool := true
  /-- What has not been read yet; what is written comes after it. -/
  content : Bytes := []
  /-- The most bytes that one read gives; absent when nothing limits it. -/
  chunk : Option Nat := none
  /-- The number of the read or write that fails. -/
  failAt : Option Nat := none
  /-- Whether closing fails. -/
  failClose : Bool := false
  reads : Nat := 0
  writes : Nat := 0
  closes : Nat := 0
  written : List Bytes := []
  deriving DecidableEq, Repr

namespace MemoryDataset

/-- All bytes that the dataset holds: those it had and those written so far, in order. -/
def received (d : MemoryDataset) : Bytes :=
  d.content ++ d.written.reverse.flatten

/-- Reads up to `n` bytes. -/
def read (n : Nat) (d : MemoryDataset) : Attempt DatasetError Bytes × MemoryDataset :=
  let d := { d with reads := d.reads + 1 }
  if d.failAt = some d.reads then (.failed (.read d.name .scripted), d)
  else if !d.isOpen then (.done [], d)
  else
    let n := min n (d.chunk.getD n)
    (.done (d.content.take n), { d with content := d.content.drop n })

/-- Writes bytes. -/
def write (bytes : Bytes) (d : MemoryDataset) : Except DatasetError Unit × MemoryDataset :=
  let d := { d with writes := d.writes + 1 }
  if !d.isOpen then (.error (.notOpen d.name), d)
  else if d.failAt = some d.writes then (.error (.write d.name .scripted), d)
  else (.ok (), { d with written := bytes :: d.written })

/-- Closes the dataset; it counts as closed even when closing fails. -/
def close (d : MemoryDataset) : Except DatasetError Unit × MemoryDataset :=
  let result := if d.failClose then .error (.write d.name .scripted) else .ok ()
  (result, { d with closes := d.closes + 1, isOpen := false })

instance (ω : Type) : DatasetStream ω MemoryDataset where
  name := MemoryDataset.name
  isOpen := MemoryDataset.isOpen
  read n d machine := let (result, d) := d.read n; (result, d, machine)
  write bytes d machine := let (result, d) := d.write bytes; (result, d, machine)
  close d machine := let (result, d) := d.close; (result, d, machine)
  poll _ _ := none

end MemoryDataset

end BatchJob.Rehearsal
