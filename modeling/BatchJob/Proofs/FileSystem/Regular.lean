import BatchJob.FileSystem.Basic
import BatchJob.Proofs.Pipe.Transfer

/-!
# Regular files

What a read, a write and a close do to the nodes of a file system: a read from a regular file gives the next
bytes of it (`read_holds`), a write at its end adds to it (`write_holds`), and no call on an open node touches
any other node (`read_frame`, `write_frame`, `close_frame`).
-/

namespace BatchJob.FileSystem

variable {fs : FileSystem} {file : OpenFile} {id : NodeId} {bytes : Bytes}

/-! ## Nodes -/

theorem node_setNode_ne {other : NodeId} (h : other ≠ id) (fs : FileSystem) (node : Node) :
    (fs.setNode id node).node other = fs.node other := by
  unfold FileSystem.node setNode
  rw [Array.getElem?_setIfInBounds_ne (Ne.symm h)]

theorem node_setNode (h : id < fs.nodes.size) (node : Node) : (fs.setNode id node).node id = node := by
  unfold FileSystem.node setNode
  rw [Array.getElem?_setIfInBounds_self_of_lt h]
  rfl

/-- A number without a node stands for the null device. -/
theorem lt_size_of_node_ne (h : fs.node id ≠ .null) : id < fs.nodes.size := by
  by_cases hlt : id < fs.nodes.size
  · exact hlt
  · refine absurd ?_ h
    unfold FileSystem.node
    rw [Array.getElem?_eq_none (Nat.not_lt.mp hlt)]
    rfl

@[simp] theorem size_setNode (fs : FileSystem) (id : NodeId) (node : Node) :
    (fs.setNode id node).nodes.size = fs.nodes.size :=
  Array.size_setIfInBounds

/-! ## Regular files -/

/-- A node is a regular file with the given bytes. -/
def Holds (fs : FileSystem) (id : NodeId) (bytes : Bytes) : Prop :=
  ∃ mode content, fs.node id = .file mode content ∧ content.data.toList = bytes

theorem Holds.lt_size (h : fs.Holds id bytes) : id < fs.nodes.size := by
  obtain ⟨mode, content, hnode, -⟩ := h
  refine lt_size_of_node_ne fun hnull => ?_
  cases hnode.symm.trans hnull

theorem Holds.of_node_eq {fs' : FileSystem} (h : fs.Holds id bytes) (same : fs'.node id = fs.node id) :
    fs'.Holds id bytes := by
  obtain ⟨mode, content, hnode, hbytes⟩ := h
  exact ⟨mode, content, same.trans hnode, hbytes⟩

/-- A read from a regular file gives what is there from the offset on, up to the number asked for. -/
theorem read_holds (h : fs.Holds file.node bytes) (readable : file.access ≠ .write) (n : Nat) :
    fs.read file n = (.done ((bytes.drop file.offset).take n),
      { file with offset := file.offset + ((bytes.drop file.offset).take n).length }, fs) := by
  obtain ⟨mode, content, hnode, rfl⟩ := h
  have hextract : (content.extract file.offset (file.offset + n)).data.toList =
      (content.data.toList.drop file.offset).take n := by
    rw [ByteArray.data_extract, Array.toList_extract, List.extract_eq_take_drop, Nat.add_sub_cancel_left]
  unfold read
  rw [if_neg readable, hnode]
  simp only [hextract]

/-- A write at the end of a regular file adds all of the bytes to it. -/
theorem write_holds (h : fs.Holds file.node bytes) (writable : file.access ≠ .read)
    (atEnd : file.offset = bytes.length) (more : Bytes) :
    ∃ fs', fs.write file more = (.done more.length, { file with offset := file.offset + more.length }, fs') ∧
      fs'.Holds file.node (bytes ++ more) := by
  have hlt := h.lt_size
  obtain ⟨mode, content, hnode, rfl⟩ := h
  have hsize : file.offset = content.size := atEnd.trans Array.length_toList
  unfold write
  rw [if_neg writable, hnode]
  refine ⟨_, rfl, mode, _, node_setNode (by rw [size_setNode]; exact hlt) _, ?_⟩
  unfold overwrite
  rw [if_pos hsize, ByteArray.toList_data_append]

/-! ## Other nodes -/

/-- Two open nodes that differ at most in their offset. -/
structure SameFile (file file' : OpenFile) : Prop where
  node : file'.node = file.node := by rfl
  access : file'.access = file.access := by rfl

/-- A read keeps to its own node. -/
theorem read_frame (fs : FileSystem) (file : OpenFile) (n : Nat) :
    SameFile file (fs.read file n).2.1 ∧
      ∀ other, other ≠ file.node → (fs.read file n).2.2.node other = fs.node other := by
  unfold read
  split
  next => exact ⟨{}, fun _ _ => rfl⟩
  next =>
    split
    next => exact ⟨{}, fun _ _ => rfl⟩
    next => exact ⟨{}, fun _ _ => rfl⟩
    next => exact ⟨{}, fun _ hne => node_setNode_ne hne _ _⟩
    next => exact ⟨{}, fun _ hne => node_setNode_ne hne _ _⟩
    next => exact ⟨{}, fun _ _ => rfl⟩
    next => exact ⟨{}, fun _ _ => rfl⟩
    next => exact ⟨{}, fun _ _ => rfl⟩
    next => exact ⟨{}, fun _ _ => rfl⟩

/-- A write keeps to its own node. -/
theorem write_frame (fs : FileSystem) (file : OpenFile) (bytes : Bytes) :
    SameFile file (fs.write file bytes).2.1 ∧
      ∀ other, other ≠ file.node → (fs.write file bytes).2.2.node other = fs.node other := by
  unfold write
  split
  next => exact ⟨{}, fun _ _ => rfl⟩
  next =>
    split
    next => exact ⟨{}, fun _ hne => (node_setNode_ne hne _ _).trans (node_setNode_ne hne _ _)⟩
    next => exact ⟨{}, fun _ hne => node_setNode_ne hne _ _⟩
    next => exact ⟨{}, fun _ hne => node_setNode_ne hne _ _⟩
    next => exact ⟨{}, fun _ _ => rfl⟩
    next => exact ⟨{}, fun _ _ => rfl⟩
    next => exact ⟨{}, fun _ _ => rfl⟩
    next => exact ⟨{}, fun _ _ => rfl⟩
    next => exact ⟨{}, fun _ _ => rfl⟩

/-- Closing a regular file changes no node, and closing anything keeps to its own node. -/
theorem close_frame (fs : FileSystem) (file : OpenFile) (other : NodeId)
    (h : other ≠ file.node ∨ ∃ bytes, fs.Holds file.node bytes) :
    (fs.close file).node other = fs.node other := by
  unfold close
  split
  next mode pipe hnode =>
    rcases h with hne | ⟨bytes, mode', content, hfile, -⟩
    · exact node_setNode_ne hne _ _
    · cases hfile.symm.trans hnode
  next pipe hnode =>
    rcases h with hne | ⟨bytes, mode', content, hfile, -⟩
    · exact node_setNode_ne hne _ _
    · cases hfile.symm.trans hnode
  next => rfl

/-- A read gives no more bytes than were asked for. -/
theorem read_length {n : Nat} {rest : OpenFile × FileSystem} (h : fs.read file n = (.done bytes, rest)) :
    bytes.length ≤ n := by
  unfold read at h
  split at h
  next => cases h
  next =>
    split at h
    next => cases h
    next mode content hnode =>
      cases h
      rw [ByteArray.data_extract, Array.toList_extract, List.extract_eq_take_drop, Nat.add_sub_cancel_left]
      exact List.length_take_le _ _
    next mode pipe hnode =>
      rcases hfetch : pipe.fetch n with ⟨result, pipe'⟩
      rw [hfetch] at h
      cases h
      exact (Pipe.fetch_done hfetch).2.2
    next pipe hnode =>
      rcases hfetch : pipe.fetch n with ⟨result, pipe'⟩
      rw [hfetch] at h
      cases h
      exact (Pipe.fetch_done hfetch).2.2
    next => cases h; exact Nat.le_of_eq List.length_replicate
    next => cases h; exact Nat.le_of_eq List.length_replicate
    next => cases h; exact Nat.zero_le _
    next => cases h; exact Nat.zero_le _

end BatchJob.FileSystem
