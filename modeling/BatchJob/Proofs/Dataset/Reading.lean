import BatchJob.Dataset
import BatchJob.OutputRoutes
import BatchJob.Proofs.Dataset.Buffering
import BatchJob.Proofs.FileSystem.Regular
import BatchJob.Rehearsal.MemoryDataset

/-!
# Reading datasets

What can be relied on when a dataset is read. Every stream here gives no more bytes than it is asked for
(`LawfulReads`). A stream with a content of its own gives that content in order and reports its end only after
all of it (`ContentLaw`); datasets in memory have one (`memoryLeft_law`), and so has a dataset over a regular
file that no output is written to (`fileLeft_law`).
-/

namespace BatchJob

/-- A read gives no more bytes than were asked for. -/
class LawfulReads (ω ι : Type) [DatasetStream ω ι] : Prop where
  read_length : ∀ {n : Nat} {input input' : ι} {machine machine' : ω} {bytes : Bytes},
    DatasetStream.read n input machine = (.done bytes, input', machine') → bytes.length ≤ n

/-- `left input outputs machine content` says what an input has still to give, next to outputs on the same
machine: a read gives a first part of it, and no byte only at its end; writes to the outputs leave it alone. -/
structure ContentLaw {ω ι δ : Type} [DatasetStream ω ι] [DatasetStream ω δ]
    (left : ι → OutputRoutes δ → ω → Bytes → Prop) : Prop where
  read : ∀ {n : Nat} {input input' : ι} {outputs : OutputRoutes δ} {machine machine' : ω} {content bytes : Bytes},
    0 < n → left input outputs machine content →
    DatasetStream.read n input machine = (.done bytes, input', machine') →
    ∃ more, content = bytes ++ more ∧ left input' outputs machine' more ∧ (bytes = [] → content = [])
  write : ∀ {input : ι} {outputs outputs' : OutputRoutes δ} {machine machine' : ω} {content bytes : Bytes}
    {place : Destination} {result : Except DatasetError Unit}, left input outputs machine content →
    outputs.writeTo place bytes machine = (result, outputs', machine') → left input outputs' machine' content

namespace OutputRoutes

variable {δ : Type}

@[simp] theorem get_set (outputs : OutputRoutes δ) (place : Destination) (dataset : δ) :
    (outputs.set place dataset).get place = dataset := by
  cases place <;> rfl

theorem get_set_ne {place other : Destination} (h : other ≠ place) (outputs : OutputRoutes δ) (dataset : δ) :
    (outputs.set place dataset).get other = outputs.get other := by
  cases place <;> cases other <;> first | rfl | exact absurd rfl h

/-- Where a channel goes depends only on which destinations are open. -/
theorem sink_congr {ω : Type} [DatasetStream ω δ] {before after : OutputRoutes δ}
    (h : ∀ place, DatasetStream.isOpen ω (after.get place) = DatasetStream.isOpen ω (before.get place))
    (channel : Channel) : after.sink ω channel = before.sink ω channel := by
  unfold sink
  rw [h]

end OutputRoutes

/-! ## Datasets in memory -/

namespace Rehearsal.MemoryDataset

theorem read_length {n : Nat} {d d' : MemoryDataset} {bytes : Bytes} (h : d.read n = (.done bytes, d')) :
    bytes.length ≤ n := by
  unfold read at h
  simp only at h
  split at h
  next => cases h
  next =>
    split at h
    next =>
      cases h
      exact Nat.zero_le _
    next =>
      cases h
      exact Nat.le_trans (List.length_take_le _ _) (Nat.min_le_left _ _)

/-- As a stream, a dataset in memory is read without regard to the machine. -/
theorem read_of_stream {ω : Type} {machine machine' : ω} {n : Nat} {d d' : MemoryDataset}
    {result : Attempt DatasetError Bytes} (h : DatasetStream.read n d machine = (result, d', machine')) :
    d.read n = (result, d') := by
  have hresult : (d.read n).1 = result := congrArg Prod.fst h
  have hd : (d.read n).2 = d' := congrArg (fun triple => triple.2.1) h
  exact Prod.ext hresult hd

instance (ω : Type) : LawfulReads ω MemoryDataset where
  read_length h := read_length (read_of_stream h)

/-- What an open dataset in memory has still to give, one whose reads are not cut down to nothing. -/
def Left {ω δ : Type} (d : MemoryDataset) (_ : OutputRoutes δ) (_ : ω) (content : Bytes) : Prop :=
  d.isOpen = true ∧ d.chunk ≠ some 0 ∧ d.content = content

theorem memoryLeft_law (ω δ : Type) [DatasetStream ω δ] :
    ContentLaw (Left : MemoryDataset → OutputRoutes δ → ω → Bytes → Prop) where
  write h _ := h
  read := by
    rintro n d d' outputs machine machine' content bytes hn ⟨hopen, hchunk, rfl⟩ hread
    have hread := read_of_stream hread
    unfold read at hread
    simp only at hread
    split at hread
    next => cases hread
    next =>
      rw [if_neg (by rw [hopen]; decide)] at hread
      cases hread
      refine ⟨_, (List.take_append_drop _ _).symm, ⟨hopen, hchunk, rfl⟩, fun hnil => ?_⟩
      refine (List.take_eq_nil_iff.mp hnil).resolve_left ?_
      cases hd : d.chunk with
      | none => simp only [Option.getD_none, Nat.min_self]; omega
      | some k =>
        have hk : k ≠ 0 := fun hzero => hchunk (by rw [hd, hzero])
        simp only [Option.getD_some]
        omega

end Rehearsal.MemoryDataset

/-! ## Datasets over open nodes -/

namespace Dataset

variable {d d' : Dataset} {fs fs' : FileSystem} {id : NodeId} {bytes content : Bytes}

theorem read_length {n : Nat} (h : d.read n fs = (.done bytes, d', fs')) : bytes.length ≤ n := by
  unfold read at h
  split at h
  next =>
    cases h
    exact Nat.zero_le _
  next => cases h
  next buffer file _ =>
    rcases hread : Buffer.read fetch buffer n (file, fs) with ⟨result, buffer', file', fs''⟩
    rw [hread] at h
    cases result with
    | done given =>
      cases h
      exact Buffer.read_length FileSystem.read_length hread
    | failed => cases h
    | blocked => cases h

instance : LawfulReads FileSystem Dataset where
  read_length := read_length

/-- The open node behind a dataset. -/
def file? (d : Dataset) : Option OpenFile :=
  d.handle.map fun
    | .reader _ file => file
    | .writer _ file => file

/-- A dataset has nothing to do with a node. -/
def Avoids (d : Dataset) (id : NodeId) : Prop :=
  ∀ file, d.file? = some file → file.node ≠ id

theorem offer_snd (device : OpenFile × FileSystem) (bytes : Bytes) :
    (offer device bytes).2 = (device.2.write device.1 bytes).2 := by
  unfold offer
  split <;> simp only [*]

/-- An offer keeps to the node of its device. -/
theorem offer_frame (fs : FileSystem) (id : NodeId) (device : OpenFile × FileSystem) (bytes : Bytes)
    (h : device.2.node id = fs.node id ∧ device.1.node ≠ id) :
    (offer device bytes).2.2.node id = fs.node id ∧ (offer device bytes).2.1.node ≠ id := by
  obtain ⟨hsame, hframe⟩ := device.2.write_frame device.1 bytes
  rw [offer_snd, hsame.node]
  exact ⟨(hframe id h.2.symm).trans h.1, h.2⟩

/-- A write keeps to the node of its dataset. -/
theorem write_frame (h : d.Avoids id) {result : Except DatasetError Unit}
    (hwrite : d.write bytes fs = (result, d', fs')) : fs'.node id = fs.node id ∧ d'.Avoids id := by
  unfold write at hwrite
  split at hwrite
  next =>
    cases hwrite
    exact ⟨rfl, h⟩
  next =>
    cases hwrite
    exact ⟨rfl, h⟩
  next buffer file hhandle =>
    have hne : file.node ≠ id := h file (by rw [file?, hhandle]; rfl)
    have hkeep := Buffer.writeThrough_keeps (offer_frame fs id) buffer bytes (file, fs) ⟨rfl, hne⟩
    cases hwrite
    refine ⟨hkeep.1, ?_⟩
    rintro file' ⟨⟩
    exact hkeep.2

/-- What a dataset over a regular file has still to give: what is buffered, and the rest of the file. -/
def Unread (d : Dataset) (fs : FileSystem) (content : Bytes) : Prop :=
  ∃ buffer file all, d.handle = some (.reader buffer file) ∧ file.access ≠ .write ∧ fs.Holds file.node all ∧
    content = buffer ++ all.drop file.offset

/-- A regular file gives the rest of its content from front to back. -/
theorem fetch_gives (all : Bytes) (id : NodeId) :
    Buffer.Gives fetch fun device content => device.1.node = id ∧ device.1.access ≠ .write ∧
      device.2.Holds id all ∧ content = all.drop device.1.offset := by
  rintro ⟨file, fs⟩ ⟨file', fs'⟩ content bytes n hn ⟨rfl, haccess, hfile, rfl⟩ hfetch
  rw [fetch, FileSystem.read_holds hfile haccess] at hfetch
  cases hfetch
  refine ⟨_, (List.take_append_drop n _).symm, ⟨rfl, haccess, hfile, ?_⟩, fun hnil => ?_⟩
  · -- a read that reaches the end of the file stops there
    show (all.drop file.offset).drop n = all.drop (file.offset + ((all.drop file.offset).take n).length)
    rw [List.drop_drop, List.length_take, List.length_drop]
    rcases Nat.le_total n (all.length - file.offset) with hle | hge
    · rw [Nat.min_eq_left hle]
    · rw [Nat.min_eq_right hge, List.drop_eq_nil_of_le (by omega), List.drop_eq_nil_of_le (by omega)]
  · exact (List.take_eq_nil_iff.mp hnil).resolve_left (Nat.ne_of_gt hn)

/-- A dataset over a regular file is read from front to back. -/
theorem read_unread {n : Nat} (hn : 0 < n) (h : d.Unread fs content)
    (done : d.read n fs = (.done bytes, d', fs')) :
    ∃ more, content = bytes ++ more ∧ d'.Unread fs' more ∧ (bytes = [] → content = []) := by
  obtain ⟨buffer, file, all, hhandle, haccess, hfile, rfl⟩ := h
  unfold read at done
  rw [hhandle] at done
  simp only at done
  rcases hread : Buffer.read fetch buffer n (file, fs) with ⟨result, buffer', file', fs''⟩
  rw [hread] at done
  cases result with
  | done given =>
    cases done
    obtain ⟨more, hall, ⟨hnode, haccess', hfile', rfl⟩, hend⟩ :=
      Buffer.read_next (fetch_gives all file.node) hn ⟨rfl, haccess, hfile, rfl⟩ hread
    exact ⟨_, hall, ⟨buffer', file', all, rfl, haccess', hnode ▸ hfile', rfl⟩, hend⟩
  | failed => cases done
  | blocked => cases done

/-- What an input over a regular file has still to give while none of the outputs is written to that file. -/
def FileLeft (d : Dataset) (outputs : OutputRoutes Dataset) (fs : FileSystem) (content : Bytes) : Prop :=
  d.Unread fs content ∧ ∀ file, d.file? = some file → ∀ place, (outputs.get place).Avoids file.node

theorem fetch_node (id : NodeId) (device : OpenFile × FileSystem) (n : Nat) (h : device.1.node = id) :
    (fetch device n).2.1.node = id :=
  (device.2.read_frame device.1 n).1.node.trans h

/-- A read stays at the node of its dataset. -/
theorem read_file {n : Nat} {result : Attempt DatasetError Bytes} (hread : d.read n fs = (result, d', fs')) :
    d'.file?.map OpenFile.node = d.file?.map OpenFile.node := by
  unfold read at hread
  split at hread
  next =>
    cases hread
    rfl
  next =>
    cases hread
    rfl
  next buffer file hhandle =>
    have hkeep := Buffer.read_keeps (fetch_node file.node) buffer n (file, fs) rfl
    cases hread
    rw [file?, file?, hhandle]
    exact congrArg some hkeep

/-- **An input over a regular file that no output is written to is read from front to back.** -/
theorem fileLeft_law : ContentLaw FileLeft where
  read := by
    rintro n d d' outputs fs fs' content bytes hn ⟨hunread, havoid⟩ hread
    obtain ⟨more, hcontent, hunread', hend⟩ := read_unread hn hunread hread
    refine ⟨more, hcontent, ⟨hunread', fun file' hfile' place => ?_⟩, hend⟩
    -- a read stays at its node, so what avoided the node avoids it still
    have hnode := read_file hread
    rw [hfile'] at hnode
    cases hfile : d.file? with
    | none =>
      rw [hfile] at hnode
      cases hnode
    | some file =>
      rw [hfile] at hnode
      have hsame : file'.node = file.node := Option.some.inj hnode
      rw [hsame]
      exact havoid file hfile place
  write := by
    rintro d outputs outputs' fs fs' content bytes place result ⟨hunread, havoid⟩ hwrite
    obtain ⟨buffer, file, all, hhandle, haccess, hfile, rfl⟩ := hunread
    have hd : d.file? = some file := by rw [file?, hhandle]; rfl
    rcases hone : (outputs.get place).write bytes fs with ⟨result', dataset, fs''⟩
    obtain ⟨hnode, havoid'⟩ := write_frame (havoid file hd place) hone
    unfold OutputRoutes.writeTo at hwrite
    simp only [DatasetStream.write, hone] at hwrite
    cases hwrite
    refine ⟨⟨buffer, file, all, hhandle, haccess, hfile.of_node_eq hnode, rfl⟩, ?_⟩
    intro file' hfile' other
    cases hd.symm.trans hfile'
    by_cases hother : other = place
    · subst hother
      rw [OutputRoutes.get_set]
      exact havoid'
    · rw [OutputRoutes.get_set_ne hother]
      exact havoid file hd other

end Dataset

end BatchJob
