import BatchJob.Proofs.FileSystem.Regular

/-!
# Opening files

What is opened for writing at a path is no regular file, or an empty one (`openCreate_blank`): an existing file
is emptied and an absent one is created without content. Until somebody writes to it, it stays so whatever else
is opened, read and closed.
-/

namespace BatchJob

/-- A node that is no regular file with anything in it. -/
def Node.Blank : Node → Prop
  | .file _ content => content = .empty
  | _ => True

namespace FileSystem

variable {fs fs' : FileSystem} {file : OpenFile} {path : String}

/-- Every blank node of one state is blank in another. -/
def KeepsBlank (fs fs' : FileSystem) : Prop :=
  ∀ id, (fs.node id).Blank → (fs'.node id).Blank

theorem KeepsBlank.rfl : KeepsBlank fs fs :=
  fun _ h => h

theorem KeepsBlank.trans {fs'' : FileSystem} (first : KeepsBlank fs fs') (second : KeepsBlank fs' fs'') :
    KeepsBlank fs fs'' :=
  fun id h => second id (first id h)

theorem keepsBlank_setNode (fs : FileSystem) (id : NodeId) {node : Node} (blank : node.Blank) :
    KeepsBlank fs (fs.setNode id node) := by
  intro other hother
  by_cases hlt : id < fs.nodes.size
  · by_cases hid : other = id
    · subst hid
      rw [node_setNode hlt]
      exact blank
    · rw [node_setNode_ne hid]
      exact hother
  · -- there is no such node
    have hsame : fs.setNode id node = fs := by
      unfold setNode
      rw [Array.setIfInBounds, dif_neg hlt]
    rw [hsame]
    exact hother

/-- The new node is the last one. -/
theorem node_addNamed (fs : FileSystem) (name : List String) (node : Node) (id : NodeId) :
    (fs.addNamed name node).node id = if id = fs.nodes.size then node else fs.node id := by
  show ((fs.nodes.push node)[id]?).getD .null = _
  rw [Array.getElem?_push]
  split
  next => rfl
  next => rfl

theorem keepsBlank_addNamed (fs : FileSystem) (name : List String) {node : Node} (blank : node.Blank) :
    KeepsBlank fs (fs.addNamed name node) := by
  intro id h
  rw [node_addNamed]
  split
  next => exact blank
  next => exact h

theorem size_addNamed (fs : FileSystem) (name : List String) (node : Node) :
    (fs.addNamed name node).nodes.size = fs.nodes.size + 1 :=
  Array.size_push _

theorem openNode_keepsBlank (fs : FileSystem) (id : NodeId) (access : Access) :
    KeepsBlank fs (fs.openNode id access).2 := by
  unfold openNode
  simp only
  split
  next => exact keepsBlank_setNode fs id trivial
  next => exact keepsBlank_setNode fs id trivial
  next => exact .rfl

theorem openNode_file (fs : FileSystem) (id : NodeId) (access : Access) :
    (fs.openNode id access).1 = { node := id, access } := by
  unfold openNode
  simp only
  split <;> rfl

/-- A blank node is open at its start, and blank still. -/
theorem openNode_blank {id : NodeId} {access : Access} (blank : (fs.node id).Blank)
    (h : fs.openNode id access = (file, fs')) :
    file.offset = 0 ∧ (fs'.node file.node).Blank ∧ KeepsBlank fs fs' := by
  have hfile := fs.openNode_file id access
  have hkeep := fs.openNode_keepsBlank id access
  rw [h] at hfile hkeep
  cases hfile
  exact ⟨rfl, hkeep id blank, hkeep⟩

/-- **What is opened for writing has nothing in it, and what had nothing in it before stays so.** -/
theorem openCreate_blank (h : fs.openCreate path = .ok (file, fs')) :
    file.offset = 0 ∧ (fs'.node file.node).Blank ∧ KeepsBlank fs fs' := by
  have hempty (mode : Nat) : (Node.file mode .empty).Blank := rfl
  unfold openCreate at h
  split at h
  next => cases h
  next name _ =>
    -- the file is new, and so the last node
    have hkeep := keepsBlank_addNamed fs name (hempty newFileMode)
    have hnew : ((fs.addNamed name (.file newFileMode .empty)).node
        ((fs.addNamed name (.file newFileMode .empty)).nodes.size - 1)).Blank := by
      rw [node_addNamed, size_addNamed, Nat.add_sub_cancel, if_pos rfl]
      exact hempty newFileMode
    obtain ⟨hoffset, hblank, hopened⟩ := openNode_blank hnew (Except.ok.inj h)
    exact ⟨hoffset, hblank, hkeep.trans hopened⟩
  next id _ =>
    split at h
    next => cases h
    next => cases h
    next mode content hnode =>
      -- an existing file is emptied before it is opened
      have hkeep := keepsBlank_setNode fs id (hempty mode)
      have hlt : id < fs.nodes.size := Holds.lt_size ⟨mode, content, hnode, rfl⟩
      have hemptied : ((fs.setNode id (.file mode .empty)).node id).Blank := by
        rw [node_setNode hlt]
        exact hempty mode
      obtain ⟨hoffset, hblank, hopened⟩ := openNode_blank hemptied (Except.ok.inj h)
      exact ⟨hoffset, hblank, hkeep.trans hopened⟩
    next _ _ hfile =>
      refine openNode_blank ?_ (Except.ok.inj h)
      cases hnode : fs.node id with
      | file mode content => exact absurd hnode (hfile mode content)
      | _ => trivial

/-- Opening what is there keeps empty what is empty. -/
theorem openExisting_keepsBlank {access : Access} (h : fs.openExisting path access = .ok (file, fs')) :
    KeepsBlank fs fs' := by
  unfold openExisting at h
  split at h
  next id _ =>
    have hkeep := fs.openNode_keepsBlank id access
    rw [Except.ok.inj h] at hkeep
    exact hkeep
  next => cases h
  next => cases h

/-- A read fills nothing. -/
theorem read_keepsBlank (fs : FileSystem) (file : OpenFile) (n : Nat) : KeepsBlank fs (fs.read file n).2.2 := by
  unfold read
  split
  next => exact .rfl
  next =>
    split
    next => exact .rfl
    next => exact .rfl
    next => exact keepsBlank_setNode fs _ trivial
    next => exact keepsBlank_setNode fs _ trivial
    all_goals exact .rfl

/-- Closing fills nothing. -/
theorem close_keepsBlank (fs : FileSystem) (file : OpenFile) : KeepsBlank fs (fs.close file) := by
  unfold close
  split
  next => exact keepsBlank_setNode fs _ trivial
  next => exact keepsBlank_setNode fs _ trivial
  next => exact .rfl

end FileSystem

end BatchJob
