import BatchJob.Proofs.Dataset.Reading

/-!
# What a dataset is a stream of

The direction of a dataset and the node behind it are settled when it is opened (`Dataset.stream?`). No read and no
write changes them, and a close leaves nothing open. A dataset that is used in its own direction, or that is read
or closed while it is not open, fails with errors of the system only (`read_failed`, `write_failed`,
`close_failed`); it does not complain about how it is used (`DatasetError.isMisuse`).
-/

namespace BatchJob

/-- Whether a failure says that a dataset was used while it was not open, or against its direction. -/
def DatasetError.isMisuse : DatasetError → Bool
  | .notOpen _ | .wrongMode _ _ => true
  | _ => false

namespace Dataset

variable {d d' d'' : Dataset} {mode : OpenMode}

/-- The direction and the node of a dataset, if it is open. -/
def stream? (d : Dataset) : Option (OpenMode × NodeId) :=
  d.handle.map fun
    | .reader _ file => (.read, file.node)
    | .writer _ file => (.write, file.node)

/-- The same dataset, on the same node in the same direction if it is open, and open if it was. -/
structure SameStream (d d' : Dataset) : Prop where
  name : d'.name = d.name
  stream : d'.stream? = d.stream?

theorem SameStream.refl (d : Dataset) : SameStream d d := ⟨rfl, rfl⟩

theorem SameStream.trans (h : SameStream d d') (h' : SameStream d' d'') : SameStream d d'' :=
  ⟨h'.name.trans h.name, h'.stream.trans h.stream⟩

theorem isOpen_eq (d : Dataset) : d.isOpen = d.stream?.isSome := by
  unfold isOpen stream?
  rw [Option.isSome_map]

theorem SameStream.isOpen (h : SameStream d d') : d'.isOpen = d.isOpen := by
  rw [isOpen_eq, isOpen_eq, h.stream]

/-- A dataset that is not open in the other direction. -/
def Faces (d : Dataset) (mode : OpenMode) : Prop :=
  ∀ mode' node, d.stream? = some (mode', node) → mode' = mode

theorem Faces.same (h : d.Faces mode) (same : SameStream d d') : d'.Faces mode := by
  intro mode' node hstream
  exact h mode' node (same.stream.symm.trans hstream)

theorem Faces.not_writer (h : d.Faces .read) {buffer : Bytes} {file : OpenFile} :
    d.handle ≠ some (.writer buffer file) := by
  intro hhandle
  have hstream : d.stream? = some (.write, file.node) := by
    unfold stream?
    rw [hhandle]
    rfl
  cases h _ _ hstream

/-- An open dataset that faces a direction is a stream in that direction. -/
theorem Faces.stream_of_isOpen (h : d.Faces mode) (isOpen : d.isOpen = true) :
    ∃ node, d.stream? = some (mode, node) := by
  rw [isOpen_eq] at isOpen
  obtain ⟨⟨mode', node⟩, hstream⟩ := Option.isSome_iff_exists.mp isOpen
  exact ⟨node, h mode' node hstream ▸ hstream⟩

/-! ## Reading -/

/-- A read neither closes a dataset nor leaves its node. -/
theorem read_same (d : Dataset) (n : Nat) (fs : FileSystem) : SameStream d (d.read n fs).2.1 := by
  unfold read
  split
  next => exact .refl d
  next => exact .refl d
  next buffer file hhandle =>
    refine ⟨rfl, ?_⟩
    unfold stream?
    rw [hhandle]
    exact congrArg (fun node => some (OpenMode.read, node))
      (Buffer.read_keeps (fetch_node file.node) buffer n (file, fs) rfl)

/-- A read from a dataset that is not written fails only with an error of the system. -/
theorem read_failed (h : d.Faces .read) {n : Nat} {fs : FileSystem} {e : DatasetError}
    (failed : (d.read n fs).1 = .failed e) : ∃ cause, e = .read d.name cause := by
  unfold read at failed
  split at failed
  next => cases failed
  next hhandle => exact absurd hhandle h.not_writer
  next buffer file _ =>
    rcases hread : Buffer.read fetch buffer n (file, fs) with ⟨result, rest⟩
    rw [hread] at failed
    cases result with
    | done | blocked => cases failed
    | failed cause =>
      cases failed
      exact ⟨cause, rfl⟩

theorem readChunks_failed (fuel : Nat) (h : d.Faces .read) (fs : FileSystem) :
    SameStream d (readChunks fuel d fs).2.1 ∧
      ∀ e, (readChunks fuel d fs).1 = .error e → ∃ cause, e = .read d.name cause := by
  induction fuel generalizing d fs with
  | zero => exact ⟨.refl d, nofun⟩
  | succ fuel ih =>
    have hsame := d.read_same textChunk fs
    have hfailed (e : DatasetError) (failed : (d.read textChunk fs).1 = .failed e) := read_failed h failed
    unfold readChunks
    rcases hread : d.read textChunk fs with ⟨result, d', fs'⟩
    rw [hread] at hsame hfailed
    obtain ⟨hrest, hrest'⟩ := ih (h.same hsame) fs'
    rw [hsame.name] at hrest'
    split
    next heq =>
      cases heq
      refine ⟨hsame, ?_⟩
      rintro e ⟨⟩
      exact hfailed _ rfl
    next heq =>
      cases heq
      exact ⟨hsame, nofun⟩
    next heq =>
      cases heq
      exact ⟨hsame, nofun⟩
    next heq =>
      cases heq
      split
      next hchunks =>
        rw [hchunks] at hrest
        exact ⟨hsame.trans hrest, nofun⟩
      next hchunks =>
        rw [hchunks] at hrest hrest'
        exact ⟨hsame.trans hrest, hrest'⟩

/-- Reading all of a dataset that is not written fails only with an error of the system. -/
theorem readText_failed (h : d.Faces .read) (fs : FileSystem) :
    SameStream d (d.readText fs).2.1 ∧ ∀ e, (d.readText fs).1 = .error e → ∃ cause, e = .read d.name cause := by
  obtain ⟨hsame, hfailed⟩ := readChunks_failed (d.available fs + 1) h fs
  unfold readText
  split
  next =>
    split
    next heq =>
      rw [heq] at hsame
      exact ⟨hsame, nofun⟩
    next heq =>
      rw [heq] at hsame hfailed
      refine ⟨hsame, ?_⟩
      rintro e ⟨⟩
      exact hfailed _ rfl
  next => exact ⟨.refl d, nofun⟩

/-! ## Writing -/

theorem offer_node (id : NodeId) (device : OpenFile × FileSystem) (bytes : Bytes) (h : device.1.node = id) :
    (offer device bytes).2.1.node = id := by
  rw [offer_snd]
  exact (device.2.write_frame device.1 bytes).1.node.trans h

/-- A write neither closes a dataset nor leaves its node. -/
theorem write_same (d : Dataset) (bytes : Bytes) (fs : FileSystem) : SameStream d (d.write bytes fs).2.1 := by
  unfold write
  split
  next => exact .refl d
  next => exact .refl d
  next buffer file hhandle =>
    refine ⟨rfl, ?_⟩
    unfold stream?
    rw [hhandle]
    exact congrArg (fun node => some (OpenMode.write, node))
      (Buffer.writeThrough_keeps (offer_node file.node) buffer bytes (file, fs) rfl)

/-- A write to a dataset that is open for it fails only with an error of the system. -/
theorem write_failed {node : NodeId} (h : d.stream? = some (.write, node)) {bytes : Bytes} {fs : FileSystem}
    {e : DatasetError} (failed : (d.write bytes fs).1 = .error e) : ∃ cause, e = .write d.name cause := by
  unfold write at failed
  split at failed
  next hhandle =>
    unfold stream? at h
    rw [hhandle] at h
    cases h
  next hhandle =>
    unfold stream? at h
    rw [hhandle] at h
    cases h
  next buffer file _ =>
    rcases hwrite : Buffer.writeThrough offer buffer bytes (file, fs) with ⟨result, rest⟩
    rw [hwrite] at failed
    cases result with
    | ok => cases failed
    | error cause =>
      cases failed
      exact ⟨cause, rfl⟩

/-! ## Closing -/

theorem close_unopened (d : Dataset) (fs : FileSystem) : (d.close fs).2.1 = unopened d.name := by
  obtain ⟨name, handle⟩ := d
  unfold close
  cases handle with
  | none => rfl
  | some handle => cases handle <;> rfl

/-- A close fails only with an error of the system, and only if the dataset is written. -/
theorem close_failed {fs : FileSystem} {e : DatasetError} (failed : (d.close fs).1 = .error e) :
    ¬ d.Faces .read ∧ ∃ cause, e = .write d.name cause := by
  unfold close at failed
  split at failed
  next => cases failed
  next => cases failed
  next buffer file hhandle =>
    refine ⟨fun h => h.not_writer hhandle, ?_⟩
    rcases hrelease : Buffer.release offer buffer (file, fs) with ⟨result, rest⟩
    rw [hrelease] at failed
    cases result with
    | ok => cases failed
    | error cause =>
      cases failed
      exact ⟨cause, rfl⟩

end Dataset

/-- Closing several destinations fails only with an error of the system. -/
theorem OutputRoutes.closeAll_failed {outputs : OutputRoutes Dataset} {fs : FileSystem} {e : DatasetError}
    (failed : (outputs.closeAll fs).1 = .error e) : ∃ name cause, e = .write name cause := by
  have hclose {outputs : OutputRoutes Dataset} {place : Destination} {fs : FileSystem} {e : DatasetError}
      (failed : (outputs.closeAt place fs).1 = .error e) : ∃ name cause, e = .write name cause :=
    ⟨(outputs.get place).name, (Dataset.close_failed failed).2⟩
  unfold closeAll at failed
  rcases hstdout : outputs.closeAt .stdout fs with ⟨stdout, outputs₁, fs₁⟩
  rcases hstderr : outputs₁.closeAt .stderr fs₁ with ⟨stderr, outputs₂, fs₂⟩
  rcases hfallback : outputs₂.closeAt .fallback fs₂ with ⟨fallback, outputs₃, fs₃⟩
  simp only [hstdout, hstderr, hfallback] at failed
  cases stdout with
  | error => exact hclose ((congrArg Prod.fst hstdout).trans failed)
  | ok =>
    cases stderr with
    | error => exact hclose ((congrArg Prod.fst hstderr).trans failed)
    | ok => exact hclose ((congrArg Prod.fst hfallback).trans failed)

end BatchJob
