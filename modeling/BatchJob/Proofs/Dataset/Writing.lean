import BatchJob.Proofs.Dataset.Reading

/-!
# Writing datasets

A write that succeeds has passed all of its bytes on to the node behind the dataset, and leaves nothing in the
buffer (`write_ok`, `write_emptied`). What a node has received can be read off it as long as nobody takes it
out: it is the content of a regular file, or what is queued in a pipe (`FileSystem.bytesIn?`). Closing a
dataset whose buffer is empty always succeeds and changes none of it (`close_ok`, `close_bytesIn`).
-/

namespace BatchJob

namespace FileSystem

variable {fs fs' : FileSystem} {file file' : OpenFile} {id : NodeId} {bytes : Bytes}

/-- The bytes in a node: the content of a regular file, or what is queued in a pipe. -/
def bytesIn? (fs : FileSystem) (id : NodeId) : Option Bytes :=
  match fs.node id with
  | .file _ content => some content.data.toList
  | .fifo _ pipe | .channel pipe => some pipe.queue.toList
  | _ => none

/-- The next write to an open node comes behind all that is in it. -/
def AtEnd (fs : FileSystem) (file : OpenFile) : Prop :=
  ∀ mode content, fs.node file.node = .file mode content → file.offset = content.size

theorem bytesIn_of_node_eq (same : fs'.node id = fs.node id) : fs'.bytesIn? id = fs.bytesIn? id := by
  unfold bytesIn?
  rw [same]

theorem atEnd_of_node_eq (h : fs.AtEnd file) (same : fs'.node file.node = fs.node file.node) : fs'.AtEnd file := by
  intro mode content hnode
  exact h mode content (same.symm.trans hnode)

theorem lt_size_of_bytesIn (h : fs.bytesIn? id = some bytes) : id < fs.nodes.size := by
  refine lt_size_of_node_ne fun hnull => ?_
  unfold bytesIn? at h
  rw [hnull] at h
  cases h

/-- A write that a node accepts adds its first bytes to what is in the node. -/
theorem write_bytesIn (before : fs.bytesIn? file.node = some bytes) (atEnd : fs.AtEnd file) {more : Bytes} {n : Nat}
    (h : fs.write file more = (.done n, file', fs')) :
    fs'.bytesIn? file.node = some (bytes ++ more.take n) ∧ fs'.AtEnd file' ∧ file'.node = file.node := by
  have hlt := lt_size_of_bytesIn before
  unfold bytesIn? at before
  unfold write at h
  split at h
  next => cases h
  next haccess =>
    split at h
    next mode content hnode =>
      rw [hnode] at before
      cases before
      have hbefore : fs.Holds file.node content.data.toList := ⟨mode, content, hnode, rfl⟩
      obtain ⟨fs'', hwrite, hholds⟩ := write_holds hbefore haccess
        ((atEnd mode content hnode).trans Array.length_toList.symm) more
      unfold write at hwrite
      rw [if_neg haccess, hnode] at hwrite
      cases h
      cases hwrite
      obtain ⟨mode', content', hnode', hcontent'⟩ := hholds
      refine ⟨?_, fun mode'' content'' hnode'' => ?_, rfl⟩
      · unfold bytesIn?
        rw [hnode', List.take_length]
        exact congrArg some hcontent'
      · cases hnode'.symm.trans hnode''
        have hsize := congrArg List.length hcontent'
        rw [List.length_append, Array.length_toList, Array.length_toList] at hsize
        show file.offset + more.length = content'.data.size
        rw [atEnd mode content hnode]
        exact hsize.symm
    next mode pipe hnode =>
      rw [hnode] at before
      cases before
      rcases hoffer : pipe.offer more with ⟨result, pipe'⟩
      rw [hoffer] at h
      cases h
      have hnode' := node_setNode hlt (.fifo mode pipe')
      refine ⟨?_, fun mode'' content'' hfile => ?_, rfl⟩
      · unfold bytesIn?
        rw [hnode']
        exact congrArg some (Pipe.offer_done hoffer).2.2
      · cases hnode'.symm.trans hfile
    next pipe hnode =>
      rw [hnode] at before
      cases before
      rcases hoffer : pipe.offer more with ⟨result, pipe'⟩
      rw [hoffer] at h
      cases h
      have hnode' := node_setNode hlt (.channel pipe')
      refine ⟨?_, fun mode'' content'' hfile => ?_, rfl⟩
      · unfold bytesIn?
        rw [hnode']
        exact congrArg some (Pipe.offer_done hoffer).2.2
      · cases hnode'.symm.trans hfile
    all_goals
      next hnode =>
        rw [hnode] at before
        cases before

/-- Closing an open node takes no byte out of any node. -/
theorem close_bytesIn (fs : FileSystem) (file : OpenFile) (id : NodeId) :
    (fs.close file).bytesIn? id = fs.bytesIn? id := by
  by_cases hid : id = file.node
  · subst hid
    unfold close
    split
    next mode pipe hnode =>
      have hlt : file.node < fs.nodes.size := lt_size_of_bytesIn (by unfold bytesIn?; rw [hnode])
      unfold bytesIn?
      rw [node_setNode hlt, hnode]
      cases file.access <;> rfl
    next pipe hnode =>
      have hlt : file.node < fs.nodes.size := lt_size_of_bytesIn (by unfold bytesIn?; rw [hnode])
      unfold bytesIn?
      rw [node_setNode hlt, hnode]
      cases file.access <;> rfl
    next => rfl
  · exact bytesIn_of_node_eq (close_frame fs file id (.inl hid))

end FileSystem

namespace Dataset

variable {d d' : Dataset} {fs fs' : FileSystem} {id : NodeId} {bytes more : Bytes}

/-- A dataset that is written behind all that is in its node, and has nothing in its buffer. -/
def Writes (d : Dataset) (fs : FileSystem) (id : NodeId) : Prop :=
  ∃ file, d.handle = some (.writer [] file) ∧ file.node = id ∧ fs.AtEnd file

/-- What an accepted offer adds to the node behind a device. -/
theorem offer_takes (id : NodeId) : Buffer.Takes offer fun device content =>
    device.1.node = id ∧ device.2.AtEnd device.1 ∧ device.2.bytesIn? id = some content := by
  rintro ⟨file, fs⟩ ⟨file', fs'⟩ content bytes n ⟨rfl, hend, hcontent⟩ hoffer
  have hwrite : fs.write file bytes = (.done n, file', fs') := by
    unfold offer at hoffer
    split at hoffer
    next hw =>
      cases hoffer
      exact hw
    next => cases hoffer
    next => cases hoffer
  obtain ⟨hcontent', hend', hnode⟩ := FileSystem.write_bytesIn hcontent hend hwrite
  exact ⟨hnode, hend', hcontent'⟩

/-- **A write that succeeds adds all of its bytes to the node of its dataset.** -/
theorem write_ok (h : d.Writes fs id) (content : fs.bytesIn? id = some bytes)
    (ok : d.write more fs = (.ok (), d', fs')) : d'.Writes fs' id ∧ fs'.bytesIn? id = some (bytes ++ more) := by
  obtain ⟨file, hhandle, hnode, hend⟩ := h
  unfold write at ok
  rw [hhandle] at ok
  simp only at ok
  rcases hthrough : Buffer.writeThrough offer [] more (file, fs) with ⟨result, left, file', fs''⟩
  rw [hthrough] at ok
  cases result with
  | error e => cases ok
  | ok =>
    cases ok
    obtain ⟨rfl, hnode', hend', hcontent'⟩ :=
      Buffer.writeThrough_ok (offer_takes id) ⟨hnode, hend, content⟩ hthrough
    exact ⟨⟨file', rfl, hnode', hend'⟩, hcontent'⟩

/-- Nothing waits in the buffer of a dataset to be written. -/
def Emptied (d : Dataset) : Prop :=
  ∀ buffer file, d.handle = some (.writer buffer file) → buffer = []

/-- A write that succeeds leaves nothing in the buffer. -/
theorem write_emptied (ok : d.write more fs = (.ok (), d', fs')) : d'.Emptied := by
  unfold write at ok
  split at ok
  next => cases ok
  next => cases ok
  next buffer file _ =>
    rcases hthrough : Buffer.writeThrough offer buffer more (file, fs) with ⟨result, left, file', fs''⟩
    rw [hthrough] at ok
    cases result with
    | error e => cases ok
    | ok =>
      cases ok
      -- what the device has taken does not matter here
      have hlaw : Buffer.Takes offer fun _ content => content = content := fun _ _ _ _ _ _ _ => rfl
      obtain ⟨rfl, -⟩ := Buffer.writeThrough_ok hlaw (Eq.refl ([] : Bytes)) hthrough
      rintro buffer' file'' ⟨⟩
      rfl

/-- A write neither opens nor closes a dataset. -/
theorem write_isOpen (d : Dataset) (bytes : Bytes) (fs : FileSystem) :
    (d.write bytes fs).2.1.isOpen = d.isOpen := by
  unfold write isOpen
  split
  next hhandle => rw [hhandle]
  next hhandle => rw [hhandle]
  next hhandle =>
    rw [hhandle]
    rfl

/-- Closing a dataset with an empty buffer succeeds and takes no byte out of any node. -/
theorem close_ok (h : d.Emptied) (fs : FileSystem) :
    (d.close fs).1 = .ok () ∧ ∀ id, (d.close fs).2.2.bytesIn? id = fs.bytesIn? id := by
  unfold close
  split
  next => exact ⟨rfl, fun _ => rfl⟩
  next => exact ⟨rfl, FileSystem.close_bytesIn fs _⟩
  next buffer file hhandle =>
    rw [h buffer file hhandle, Buffer.release_nil]
    exact ⟨rfl, FileSystem.close_bytesIn fs file⟩

/-- Nothing waits in the buffer of a dataset that was closed. -/
theorem close_emptied (d : Dataset) (fs : FileSystem) : (d.close fs).2.1.Emptied := by
  intro buffer file hhandle
  unfold close at hhandle
  split at hhandle
  next hnone => cases hnone.symm.trans hhandle
  next => cases hhandle
  next => cases hhandle

/-- A read leaves nothing to be written in a buffer where nothing was. -/
theorem read_emptied (h : d.Emptied) (n : Nat) (fs : FileSystem) : (d.read n fs).2.1.Emptied := by
  unfold read
  split
  next => exact h
  next => exact h
  next => rintro buffer file ⟨⟩

theorem avoids_unopened (name : String) (id : NodeId) : (unopened name).Avoids id := by
  intro file hfile
  cases hfile

/-- Closing a dataset keeps to its node. -/
theorem close_frame (h : d.Avoids id) {result : Except DatasetError Unit}
    (hclose : d.close fs = (result, d', fs')) : fs'.node id = fs.node id ∧ d'.Avoids id := by
  unfold close at hclose
  split at hclose
  next =>
    cases hclose
    exact ⟨rfl, h⟩
  next buffer file hhandle =>
    have hne : file.node ≠ id := h file (by rw [file?, hhandle]; rfl)
    cases hclose
    exact ⟨FileSystem.close_frame fs file id (.inl hne.symm), avoids_unopened d.name id⟩
  next buffer file hhandle =>
    have hne : file.node ≠ id := h file (by rw [file?, hhandle]; rfl)
    have hkeep := Buffer.release_keeps (offer_frame fs id) buffer (file, fs) ⟨rfl, hne⟩
    cases hclose
    exact ⟨(FileSystem.close_frame _ _ id (.inl hkeep.2.symm)).trans hkeep.1, avoids_unopened d.name id⟩

/-- A read keeps to the node of its dataset. -/
theorem read_frame (h : d.Avoids id) {n : Nat} {result : Attempt DatasetError Bytes}
    (hread : d.read n fs = (result, d', fs')) : fs'.node id = fs.node id ∧ d'.Avoids id := by
  unfold read at hread
  split at hread
  next =>
    cases hread
    exact ⟨rfl, h⟩
  next =>
    cases hread
    exact ⟨rfl, h⟩
  next buffer file hhandle =>
    have hne : file.node ≠ id := h file (by rw [file?, hhandle]; rfl)
    have hfetch : ∀ device n, device.2.node id = fs.node id ∧ device.1.node ≠ id →
        (fetch device n).2.2.node id = fs.node id ∧ (fetch device n).2.1.node ≠ id := by
      rintro ⟨file', fs''⟩ n ⟨hnode, hne'⟩
      obtain ⟨hsame, hframe⟩ := fs''.read_frame file' n
      exact ⟨(hframe id hne'.symm).trans hnode, by rw [fetch, hsame.node]; exact hne'⟩
    have hkeep := Buffer.read_keeps hfetch buffer n (file, fs) ⟨rfl, hne⟩
    cases hread
    refine ⟨hkeep.1, ?_⟩
    rintro file' ⟨⟩
    exact hkeep.2

end Dataset

/-! ## Closing the outputs -/

namespace OutputRoutes

/-- Closing one of several destinations with empty buffers succeeds and takes no byte out of any node. -/
theorem closeAt_ok {outputs : OutputRoutes Dataset} (h : ∀ place, (outputs.get place).Emptied) (place : Destination)
    (fs : FileSystem) : ∃ outputs' fs', outputs.closeAt place fs = (.ok (), outputs', fs') ∧
      (∀ other, (outputs'.get other).Emptied) ∧ ∀ id, fs'.bytesIn? id = fs.bytesIn? id := by
  obtain ⟨hok, hsame⟩ := Dataset.close_ok (h place) fs
  have hemptied := (outputs.get place).close_emptied fs
  rcases hclose : (outputs.get place).close fs with ⟨result, dataset, fs'⟩
  rw [hclose] at hok hsame hemptied
  cases hok
  refine ⟨outputs.set place dataset, fs', ?_, fun other => ?_, hsame⟩
  · unfold closeAt
    simp only [DatasetStream.close, hclose]
  · by_cases hother : other = place
    · subst hother
      rw [get_set]
      exact hemptied
    · rw [get_set_ne hother]
      exact h other

/-- **Closing all destinations with empty buffers succeeds and takes no byte out of any node.** -/
theorem closeAll_ok {outputs : OutputRoutes Dataset} (h : ∀ place, (outputs.get place).Emptied) (fs : FileSystem) :
    ∃ outputs' fs', outputs.closeAll fs = (.ok (), outputs', fs') ∧ ∀ id, fs'.bytesIn? id = fs.bytesIn? id := by
  obtain ⟨outputs₁, fs₁, hstdout, h₁, hsame₁⟩ := closeAt_ok h .stdout fs
  obtain ⟨outputs₂, fs₂, hstderr, h₂, hsame₂⟩ := closeAt_ok h₁ .stderr fs₁
  obtain ⟨outputs₃, fs₃, hfallback, -, hsame₃⟩ := closeAt_ok h₂ .fallback fs₂
  refine ⟨outputs₃, fs₃, ?_, fun id => ?_⟩
  · unfold closeAll
    simp only [hstdout, hstderr, hfallback, firstFailure]
  · rw [hsame₃, hsame₂, hsame₁]

end OutputRoutes

end BatchJob
