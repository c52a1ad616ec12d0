import BatchJob.Dataset
import BatchJob.Proofs.Pipe.Transfer

/-!
# Waiting for datasets

What can be relied on when a dataset is waited for. A dataset that is not ready has nothing to give at this
moment, and one that is ready, or that has nothing to wait on, can be read without waiting (`PollLaw`). A
dataset over an open node is idle while nothing of it is buffered and the pipe behind it is empty and can still
be written to (`Dataset.Idle`, `Dataset.idle_law`).
-/

namespace BatchJob

/-- What the answer about a wait promises of the next read. -/
structure PollLaw {ω ι : Type} [DatasetStream ω ι] (idle : ι → ω → Prop) : Prop where
  /-- What is not ready has nothing to give. -/
  unready : ∀ {input : ι} {machine : ω}, DatasetStream.poll input machine = some false → idle input machine
  /-- What is ready, or need not be waited for, does not keep a read waiting. -/
  prompt : ∀ {n : Nat} {input : ι} {machine : ω}, DatasetStream.poll input machine ≠ some false →
    (DatasetStream.read n input machine).1 ≠ .blocked

/-! ## Open nodes -/

namespace FileSystem

/-- The pipe behind a node, if there is one. -/
def pipe? (fs : FileSystem) (id : NodeId) : Option Pipe :=
  match fs.node id with
  | .fifo _ pipe | .channel pipe => some pipe
  | _ => none

/-- A node is ready unless there is a pipe behind it that is not. -/
theorem pipe_of_unready {fs : FileSystem} {file : OpenFile} (h : fs.isReadable file = false) :
    ∃ pipe, fs.pipe? file.node = some pipe ∧ pipe.isReadable = false := by
  unfold isReadable at h
  unfold pipe?
  cases hnode : fs.node file.node with
  | fifo _ pipe =>
    rw [hnode] at h
    exact ⟨pipe, rfl, h⟩
  | channel pipe =>
    rw [hnode] at h
    exact ⟨pipe, rfl, h⟩
  | _ =>
    rw [hnode] at h
    cases h

/-- A node that is ready does not keep a reader waiting. -/
theorem read_of_isReadable {fs : FileSystem} {file : OpenFile} (h : fs.isReadable file = true) (n : Nat) :
    (fs.read file n).1 ≠ .blocked := by
  unfold isReadable at h
  unfold read
  split
  next => nofun
  next =>
    cases hnode : fs.node file.node with
    | fifo mode pipe =>
      rw [hnode] at h
      obtain ⟨bytes, pipe', hfetch⟩ := Pipe.fetch_of_isReadable h n
      simp only [hfetch]
      nofun
    | channel pipe =>
      rw [hnode] at h
      obtain ⟨bytes, pipe', hfetch⟩ := Pipe.fetch_of_isReadable h n
      simp only [hfetch]
      nofun
    | _ => nofun

end FileSystem

/-! ## Datasets over open nodes -/

/-- A read through a buffer waits only for the device, and only when nothing is buffered. -/
theorem Buffer.read_prompt {δ : Type} {fetch : δ → Nat → Attempt IoError Bytes × δ} {buffer : Bytes} {device : δ}
    (h : buffer = [] → ∀ n, (fetch device n).1 ≠ .blocked) (n : Nat) : (read fetch buffer n device).1 ≠ .blocked := by
  unfold read
  split
  next hempty =>
    have hfetch := h (List.isEmpty_iff.mp hempty)
    split
    next => exact hfetch n
    next =>
      have hfill := hfetch capacity
      split
      next => nofun
      next => nofun
      next heq =>
        rw [heq] at hfill
        exact absurd rfl hfill
  next => nofun

namespace Dataset

/-- A dataset is idle while nothing of it is buffered and the pipe behind it is empty and not at its end. -/
def Idle (d : Dataset) (fs : FileSystem) : Prop :=
  ∃ file pipe, d.handle = some (.reader [] file) ∧ fs.pipe? file.node = some pipe ∧
    pipe.queue.toList = [] ∧ pipe.hasWriter = true

theorem idle_of_unready {d : Dataset} {fs : FileSystem} (h : d.poll fs = some false) : d.Idle fs := by
  unfold poll at h
  split at h
  next file hhandle =>
    obtain ⟨pipe, hpipe, hunready⟩ := FileSystem.pipe_of_unready (Option.some.inj h)
    unfold Pipe.isReadable at hunready
    simp only [Bool.or_eq_false_iff, Bool.not_eq_false'] at hunready
    exact ⟨file, pipe, hhandle, hpipe, (ByteQueue.isEmpty_iff _).mp hunready.1, hunready.2⟩
  next => cases h

theorem read_prompt {d : Dataset} {fs : FileSystem} (h : d.poll fs ≠ some false) (n : Nat) :
    (d.read n fs).1 ≠ .blocked := by
  unfold read
  split
  next => nofun
  next => nofun
  next buffer file hhandle =>
    -- the device is asked only when nothing is buffered, and then it is what the poll was about
    have hdevice : buffer = [] → ∀ n, (fetch (file, fs) n).1 ≠ .blocked := by
      rintro rfl n
      refine FileSystem.read_of_isReadable ?_ n
      unfold poll at h
      rw [hhandle] at h
      cases hready : fs.isReadable file with
      | true => rfl
      | false => exact absurd (congrArg some hready) h
    have hread := Buffer.read_prompt hdevice n
    rcases hresult : Buffer.read fetch buffer n (file, fs) with ⟨result, buffer', file', fs'⟩
    rw [hresult] at hread
    cases result with
    | done | failed => nofun
    | blocked => exact absurd rfl hread

/-- **A dataset that is not ready is idle, and any other one is read without waiting.** -/
theorem idle_law : PollLaw Idle where
  unready := idle_of_unready
  prompt h := read_prompt h _

end Dataset

end BatchJob
