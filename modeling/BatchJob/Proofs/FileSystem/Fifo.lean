import BatchJob.Proofs.FileSystem.Opening

/-!
# Named pipes

What the calls on an open FIFO do to the bytes in it while somebody holds it open for writing: a read takes bytes from
the front and waits when there are none, a write adds what it is told was taken, and the coming and going of other
writers changes nothing.
-/

namespace BatchJob.FileSystem

variable {fs : FileSystem} {file : OpenFile} {id : NodeId} {holders n : Nat} {bytes : Bytes}

/-- A node is a FIFO with the given bytes in it, in blocking mode, and at least so many handles for writing to it are
open. -/
def Carries (fs : FileSystem) (id : NodeId) (holders : Nat) (bytes : Bytes) : Prop :=
  ∃ mode pipe, fs.node id = .fifo mode pipe ∧ holders ≤ pipe.writeDuplicates ∧ pipe.readNonblocking = false ∧
    pipe.queue.toList = bytes

theorem Carries.lt_size (h : fs.Carries id holders bytes) : id < fs.nodes.size := by
  obtain ⟨mode, pipe, hnode, -⟩ := h
  refine lt_size_of_node_ne fun hnull => ?_
  cases hnode.symm.trans hnull

/-- The same FIFO after a transfer. -/
theorem Carries.transfer {mode : Nat} {pipe pipe' : Pipe} (h : fs.node id = .fifo mode pipe)
    (held : holders ≤ pipe.writeDuplicates) (waits : pipe.readNonblocking = false) (ends : pipe.SameEnds pipe') :
    (fs.setNode id (.fifo mode pipe')).Carries id holders pipe'.queue.toList := by
  have hlt : id < fs.nodes.size := Carries.lt_size ⟨mode, pipe, h, held, waits, rfl⟩
  refine ⟨mode, pipe', node_setNode hlt _, ?_, ?_, rfl⟩
  · rw [ends]
    exact held
  · rw [ends]
    exact waits

theorem Carries.read (h : fs.Carries file.node holders bytes) (readable : file.access ≠ .write)
    (some : bytes ≠ []) (hn : 0 < n) :
    ∃ fs', fs.read file n = (.done (bytes.take n), file, fs') ∧ fs'.Carries file.node holders (bytes.drop n) := by
  obtain ⟨mode, pipe, hnode, hheld, hwaits, rfl⟩ := h
  unfold FileSystem.read
  rw [if_neg readable, hnode]
  simp only [Pipe.fetch_of_ne_nil some hn]
  refine ⟨_, rfl, ?_⟩
  rw [← ByteQueue.toList_take]
  exact Carries.transfer hnode hheld hwaits rfl

/-- A reader of an empty FIFO waits as long as there is a writer. -/
theorem Carries.read_nil (h : fs.Carries file.node (holders + 1) []) (readable : file.access ≠ .write) (hn : 0 < n) :
    ∃ fs', fs.read file n = (.blocked, file, fs') ∧ fs'.Carries file.node (holders + 1) [] := by
  obtain ⟨mode, pipe, hnode, hheld, hwaits, hempty⟩ := h
  have hwriter : pipe.hasWriter = true := by
    unfold Pipe.hasWriter
    rw [decide_eq_true (by omega : 0 < pipe.writeDuplicates), Bool.or_true]
  unfold FileSystem.read
  rw [if_neg readable, hnode]
  simp only [Pipe.fetch_of_nil hempty hwriter hwaits hn]
  refine ⟨_, rfl, ?_⟩
  rw [← hempty]
  exact Carries.transfer hnode hheld hwaits rfl

theorem Carries.write (h : fs.Carries file.node holders bytes) (writable : file.access ≠ .read) (more : Bytes) :
    (fs.write file more).2.1 = file ∧
      (fs.write file more).2.2.Carries file.node holders (bytes ++ more.take (fs.write file more).1.taken) := by
  obtain ⟨mode, pipe, hnode, hheld, hwaits, rfl⟩ := h
  obtain ⟨hends, hqueue⟩ := pipe.offer_taken more
  have hwrite : fs.write file more =
      ((pipe.offer more).1, file, fs.setNode file.node (.fifo mode (pipe.offer more).2)) := by
    unfold FileSystem.write
    rw [if_neg writable, hnode]
  rw [hwrite, ← hqueue]
  exact ⟨rfl, Carries.transfer hnode hheld hwaits hends⟩

/-- One more handle for writing. -/
theorem Carries.openNode {access : Access} (h : fs.Carries id holders bytes) (writable : access ≠ .read) :
    (fs.openNode id access).2.Carries id (holders + 1) bytes := by
  have hlt := h.lt_size
  obtain ⟨mode, pipe, hnode, hheld, hwaits, hqueue⟩ := h
  unfold FileSystem.openNode
  simp only [hnode]
  refine ⟨mode, holdPipe pipe access, node_setNode hlt _, ?_, ?_, ?_⟩
  · cases access with
    | read => exact absurd rfl writable
    | write | readWrite => exact Nat.succ_le_succ hheld
  · cases access <;> exact hwaits
  · cases access <;> exact hqueue

/-- One handle less. -/
theorem Carries.close (h : fs.Carries file.node (holders + 1) bytes) :
    (fs.close file).Carries file.node holders bytes := by
  have hlt := h.lt_size
  obtain ⟨mode, pipe, hnode, hheld, hwaits, hqueue⟩ := h
  unfold FileSystem.close
  simp only [hnode]
  refine ⟨mode, releasePipe pipe file.access, node_setNode hlt _, ?_, ?_, ?_⟩
  · cases file.access with
    | read => exact Nat.le_of_succ_le hheld
    | write | readWrite => exact Nat.le_sub_one_of_lt hheld
  · cases file.access <;> exact hwaits
  · cases file.access <;> exact hqueue

end BatchJob.FileSystem
