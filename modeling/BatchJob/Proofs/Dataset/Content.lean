import Mathlib
import BatchJob.Proofs.Dataset.Reading
import BatchJob.Proofs.Dataset.Waiting
import BatchJob.Proofs.Text.Utf8

/-!
# The content of a dataset

A dataset that is open for reading has still to give what is buffered and what its node holds behind that
(`Dataset.remaining?`). Small reads are served from the buffer and large ones go past it, but each takes its bytes off
the front of these (`read_remaining`), so that whatever has been read is a first part of the content, and the text of a
dataset is that of all the rest, however many chunks it came in (`readText_remaining`).

Main statement: `content_in_order`.
-/

namespace BatchJob

/-! ## Open nodes -/

namespace FileSystem

variable {fs fs' : FileSystem} {file file' : OpenFile} {rest : Bytes} {n : Nat} {result : Attempt IoError Bytes}

/-- What an open node has still to give to its reader, unless that has no end or cannot be read at all. -/
def rest? (fs : FileSystem) (file : OpenFile) : Option Bytes :=
  if file.access = .write then none
  else
    match fs.node file.node with
    | .file _ content => some (content.data.toList.drop file.offset)
    | .fifo _ pipe | .channel pipe => some pipe.queue.toList
    | .null => some []
    | .directory _ | .full | .zero | .program _ => none

/-- More may come behind what an open node holds: it is a pipe that can still be written to. -/
def Awaited (fs : FileSystem) (file : OpenFile) : Prop :=
  ∃ pipe, fs.pipe? file.node = some pipe ∧ pipe.hasWriter = true

theorem access_of_rest (h : fs.rest? file = some rest) : file.access ≠ .write := by
  intro hwrite
  rw [rest?, if_pos hwrite] at h
  cases h

theorem rest?_of_pipe {pipe : Pipe} (hpipe : fs.pipe? file.node = some pipe) (haccess : file.access ≠ .write) :
    fs.rest? file = some pipe.queue.toList := by
  unfold pipe? at hpipe
  unfold rest?
  rw [if_neg haccess]
  split at hpipe
  next hnode =>
    cases hpipe
    rw [hnode]
  next hnode =>
    cases hpipe
    rw [hnode]
  next => cases hpipe

/-- What has a rest is a regular file, a pipe or the null device. -/
theorem rest?_cases (h : fs.rest? file = some rest) :
    (∃ all, fs.Holds file.node all ∧ rest = all.drop file.offset) ∨
    (∃ pipe, fs.pipe? file.node = some pipe ∧ rest = pipe.queue.toList) ∨
    (fs.node file.node = .null ∧ rest = []) := by
  rw [rest?, if_neg (access_of_rest h)] at h
  cases hnode : fs.node file.node with
  | file mode content =>
    rw [hnode] at h
    cases h
    exact .inl ⟨_, ⟨mode, content, hnode, rfl⟩, rfl⟩
  | fifo mode pipe =>
    rw [hnode] at h
    cases h
    exact .inr (.inl ⟨pipe, by rw [pipe?, hnode], rfl⟩)
  | channel pipe =>
    rw [hnode] at h
    cases h
    exact .inr (.inl ⟨pipe, by rw [pipe?, hnode], rfl⟩)
  | null =>
    rw [hnode] at h
    cases h
    exact .inr (.inr ⟨rfl, rfl⟩)
  | directory | full | zero | program =>
    rw [hnode] at h
    cases h

/-- A read of an open node with a pipe behind it is one of the pipe. -/
theorem read_pipe {pipe pipe' : Pipe} (hpipe : fs.pipe? file.node = some pipe) (haccess : file.access ≠ .write)
    (hfetch : pipe.fetch n = (result, pipe')) :
    ∃ fs', fs.read file n = (result, file, fs') ∧ fs'.pipe? file.node = some pipe' := by
  unfold pipe? at hpipe
  unfold read
  rw [if_neg haccess]
  split at hpipe
  next mode _ hnode =>
    cases hpipe
    have hlt : file.node < fs.nodes.size := lt_size_of_node_ne (by rw [hnode]; nofun)
    rw [hnode]
    simp only [hfetch]
    exact ⟨_, rfl, by rw [pipe?, node_setNode hlt]⟩
  next _ hnode =>
    cases hpipe
    have hlt : file.node < fs.nodes.size := lt_size_of_node_ne (by rw [hnode]; nofun)
    rw [hnode]
    simp only [hfetch]
    exact ⟨_, rfl, by rw [pipe?, node_setNode hlt]⟩
  next => cases hpipe

/-- A read of any other open node changes nothing in the file system. -/
theorem read_of_pipe_none (hpipe : fs.pipe? file.node = none) (n : Nat) : (fs.read file n).2.2 = fs := by
  unfold pipe? at hpipe
  unfold read
  split
  next => rfl
  next =>
    split
    next => rfl
    next => rfl
    next hnode =>
      rw [hnode] at hpipe
      cases hpipe
    next hnode =>
      rw [hnode] at hpipe
      cases hpipe
    next => rfl
    next => rfl
    next => rfl
    next => rfl

/-- A read of an open node takes what it gives off the front of the rest, and gives none only if there is none. -/
theorem read_rest (h : fs.rest? file = some rest) (hn : 0 < n) (hread : fs.read file n = (result, file', fs')) :
    ∃ more, rest = result.given ++ more ∧ fs'.rest? file' = some more ∧ (result.given = [] → rest = []) := by
  have haccess := access_of_rest h
  rcases rest?_cases h with ⟨all, hholds, rfl⟩ | ⟨pipe, hpipe, rfl⟩ | ⟨hnode, rfl⟩
  · -- a regular file: the offset moves on by what is given
    have hdone := read_holds hholds haccess n
    obtain ⟨more, hrest, ⟨-, -, hholds', hmore⟩, hend⟩ :=
      Dataset.fetch_gives all file.node (file, fs) _ _ _ n hn ⟨rfl, haccess, hholds, rfl⟩ hdone
    cases hread.symm.trans hdone
    obtain ⟨mode, content, hnode, hall⟩ := hholds'
    refine ⟨more, hrest, ?_, hend⟩
    rw [rest?, if_neg haccess, hnode, hmore]
    simp only [hall]
  · -- a pipe: whether the read returns or not, the queue has lost what it gave
    rcases hfetch : pipe.fetch n with ⟨_, pipe'⟩
    obtain ⟨_, hresult, hpipe'⟩ := read_pipe hpipe haccess hfetch
    cases hread.symm.trans hresult
    obtain ⟨-, hqueue, hend⟩ := Pipe.fetch_given hfetch
    exact ⟨_, hqueue.symm, rest?_of_pipe hpipe' haccess, hend hn⟩
  · rw [read, if_neg haccess, hnode] at hread
    cases hread
    exact ⟨[], rfl, h, fun _ => rfl⟩

/-- Whether more may come does not depend on what is read. -/
theorem read_awaited (hread : fs.read file n = (result, file', fs')) : fs'.Awaited file' ↔ fs.Awaited file := by
  have hnode : file'.node = file.node := by
    have hsame := (fs.read_frame file n).1.node
    rwa [hread] at hsame
  unfold Awaited
  rw [hnode]
  cases hpipe : fs.pipe? file.node with
  | none =>
    have hsame := read_of_pipe_none hpipe n
    rw [hread] at hsame
    rw [show fs' = fs from hsame, hpipe]
  | some pipe =>
    by_cases haccess : file.access = .write
    · rw [read, if_pos haccess] at hread
      cases hread
      rw [hpipe]
    · rcases hfetch : pipe.fetch n with ⟨_, pipe'⟩
      obtain ⟨_, hresult, hpipe'⟩ := read_pipe hpipe haccess hfetch
      cases hread.symm.trans hresult
      obtain ⟨hends, -⟩ := Pipe.fetch_given hfetch
      rw [hpipe']
      simp only [Option.some.injEq, exists_eq_left', hends.hasWriter]

/-- Where no more may come, a read returns. -/
theorem read_of_not_awaited (h : fs.rest? file = some rest) (hended : ¬fs.Awaited file) (n : Nat) :
    ∃ bytes, (fs.read file n).1 = .done bytes := by
  have haccess := access_of_rest h
  rcases rest?_cases h with ⟨all, hholds, rfl⟩ | ⟨pipe, hpipe, rfl⟩ | ⟨hnode, rfl⟩
  · exact ⟨_, by rw [read_holds hholds haccess]⟩
  · have hwriter : pipe.hasWriter = false := Bool.eq_false_iff.mpr fun hwriter => hended ⟨pipe, hpipe, hwriter⟩
    have hready : pipe.isReadable = true := by rw [Pipe.isReadable, hwriter, Bool.not_false, Bool.or_true]
    obtain ⟨bytes, pipe', hfetch⟩ := Pipe.fetch_of_isReadable hready n
    obtain ⟨_, hresult, -⟩ := read_pipe hpipe haccess hfetch
    exact ⟨bytes, by rw [hresult]⟩
  · exact ⟨[], by rw [read, if_neg haccess, hnode]⟩

end FileSystem

/-! ## Through the buffer -/

namespace Buffer

variable {δ : Type} {fetch : δ → Nat → Attempt IoError Bytes × δ} {Left : δ → Bytes → Prop} {d d' : δ}
  {buffer buffer' content : Bytes} {n : Nat} {result : Attempt IoError Bytes}

/-- A call of the device takes what it gives off the front of what is left, whatever it comes to, and gives nothing only
when nothing is left. -/
def Serves (fetch : δ → Nat → Attempt IoError Bytes × δ) (Left : δ → Bytes → Prop) : Prop :=
  ∀ (d d' : δ) (content : Bytes) (n : Nat) (result : Attempt IoError Bytes), 0 < n → Left d content →
    fetch d n = (result, d') →
    ∃ more, content = result.given ++ more ∧ Left d' more ∧ (result.given = [] → content = [])

theorem Serves.gives (law : Serves fetch Left) : Gives fetch Left :=
  fun d d' content bytes n hn h hfetch => law d d' content n (.done bytes) hn h hfetch

/-- A read that does not return has found nothing in the buffer, and left it so. -/
theorem read_undone (hread : read fetch buffer n d = (result, buffer', d')) (hundone : ∀ bytes, result ≠ .done bytes) :
    buffer = [] ∧ buffer' = [] ∧ ∃ m, 0 < m ∧ fetch d m = (result, d') := by
  unfold read at hread
  split at hread
  next hempty =>
    have hbuffer : buffer = [] := List.isEmpty_iff.mp hempty
    split at hread
    next hlarge =>
      cases hread
      exact ⟨hbuffer, rfl, n, Nat.lt_of_lt_of_le (by decide) hlarge, rfl⟩
    next =>
      split at hread
      next =>
        cases hread
        exact absurd rfl (hundone _)
      next hfetch =>
        cases hread
        exact ⟨hbuffer, rfl, capacity, by decide, hfetch⟩
      next hfetch =>
        cases hread
        exact ⟨hbuffer, rfl, capacity, by decide, hfetch⟩
  next =>
    cases hread
    exact absurd rfl (hundone _)

/-- So does a read, with what is buffered in front. -/
theorem read_served (law : Serves fetch Left) (hn : 0 < n) (h : Left d content)
    (hread : read fetch buffer n d = (result, buffer', d')) :
    ∃ more, buffer ++ content = result.given ++ (buffer' ++ more) ∧ Left d' more ∧
      (result.given = [] → buffer ++ content = []) := by
  cases result with
  | done bytes => exact read_next law.gives hn h hread
  | failed | blocked =>
    obtain ⟨rfl, rfl, m, hm, hfetch⟩ := read_undone hread nofun
    exact law _ _ _ _ _ hm h hfetch

/-- A read returns where the device does. -/
theorem read_returns (hfetch : ∀ m, ∃ bytes, (fetch d m).1 = .done bytes) (buffer : Bytes) (n : Nat) :
    ∃ bytes, (read fetch buffer n d).1 = .done bytes := by
  rcases hread : read fetch buffer n d with ⟨result, buffer', d'⟩
  cases result with
  | done bytes => exact ⟨bytes, rfl⟩
  | failed | blocked =>
    obtain ⟨-, -, m, -, hundone⟩ := read_undone hread nofun
    obtain ⟨bytes, hdone⟩ := hfetch m
    rw [hundone] at hdone
    cases hdone

end Buffer

/-! ## Datasets -/

namespace Dataset

variable {d d' : Dataset} {fs fs' : FileSystem} {rest : Bytes} {n : Nat} {result : Attempt DatasetError Bytes}

/-- What a dataset that is open for reading has still to give, if that has an end. -/
def remaining? (d : Dataset) (fs : FileSystem) : Option Bytes :=
  match d.handle with
  | some (.reader buffer file) => (fs.rest? file).map (buffer ++ ·)
  | _ => none

/-- More may come behind what a dataset has to give. -/
def Awaited (d : Dataset) (fs : FileSystem) : Prop :=
  ∃ file, d.file? = some file ∧ fs.Awaited file

theorem remaining?_eq_some_iff : d.remaining? fs = some rest ↔
    ∃ buffer file more, d.handle = some (.reader buffer file) ∧ fs.rest? file = some more ∧ rest = buffer ++ more := by
  unfold remaining?
  split
  next buffer file hhandle =>
    constructor
    · intro h
      obtain ⟨more, hmore, rfl⟩ := Option.map_eq_some_iff.mp h
      exact ⟨buffer, file, more, hhandle, hmore, rfl⟩
    · rintro ⟨_, _, more, hsame, hmore, rfl⟩
      cases hhandle.symm.trans hsame
      exact Option.map_eq_some_iff.mpr ⟨more, hmore, rfl⟩
  next hhandle =>
    refine ⟨nofun, ?_⟩
    rintro ⟨buffer, file, -, hsame, -⟩
    exact absurd hsame (hhandle buffer file)

theorem fetch_serves : Buffer.Serves fetch fun device rest => device.2.rest? device.1 = some rest :=
  fun _ _ _ _ _ hn h hfetch => FileSystem.read_rest h hn hfetch

/-- What a read of a dataset that is open for reading comes to. -/
theorem read_reader {buffer : Bytes} {file : OpenFile} (hhandle : d.handle = some (.reader buffer file)) (n : Nat)
    (fs : FileSystem) :
    d.read n fs = ((Buffer.read fetch buffer n (file, fs)).1.mapError (.read d.name),
      { d with handle := some (.reader (Buffer.read fetch buffer n (file, fs)).2.1
        (Buffer.read fetch buffer n (file, fs)).2.2.1) }, (Buffer.read fetch buffer n (file, fs)).2.2.2) := by
  unfold read
  rw [hhandle]

/-- **A read takes what it gives off the front of what remains, and gives nothing only when nothing remains.** -/
theorem read_remaining (h : d.remaining? fs = some rest) (hn : 0 < n) (hread : d.read n fs = (result, d', fs')) :
    ∃ more, rest = result.given ++ more ∧ d'.remaining? fs' = some more ∧ (result.given = [] → rest = []) := by
  obtain ⟨buffer, file, more, hhandle, hmore, rfl⟩ := remaining?_eq_some_iff.mp h
  rw [read_reader hhandle] at hread
  cases hread
  obtain ⟨left, hrest, hleft, hend⟩ := Buffer.read_served fetch_serves hn hmore
    (rfl : Buffer.read fetch buffer n (file, fs) = _)
  rw [Attempt.given_mapError]
  exact ⟨_, hrest, remaining?_eq_some_iff.mpr ⟨_, _, left, rfl, hleft, rfl⟩, hend⟩

theorem fetch_not_awaited (device : OpenFile × FileSystem) (n : Nat) (hended : ¬device.2.Awaited device.1) :
    ¬(fetch device n).2.2.Awaited (fetch device n).2.1 :=
  mt (FileSystem.read_awaited rfl).mp hended

theorem read_not_awaited (hended : ¬d.Awaited fs) (hread : d.read n fs = (result, d', fs')) : ¬d'.Awaited fs' := by
  cases hhandle : d.handle with
  | none =>
    rw [read, hhandle] at hread
    cases hread
    exact hended
  | some handle =>
    cases handle with
    | writer buffer file =>
      rw [read, hhandle] at hread
      cases hread
      exact hended
    | reader buffer file =>
      have hfile : ¬fs.Awaited file := fun hawaited => hended ⟨file, by rw [file?, hhandle]; rfl, hawaited⟩
      have hkeep := Buffer.read_keeps fetch_not_awaited buffer n (file, fs) hfile
      rw [read_reader hhandle] at hread
      cases hread
      rintro ⟨_, ⟨⟩, hawaited⟩
      exact hkeep hawaited

/-- Where no more may come, a read returns. -/
theorem read_of_not_awaited (h : d.remaining? fs = some rest) (hended : ¬d.Awaited fs) (n : Nat) :
    ∃ bytes d' fs', d.read n fs = (.done bytes, d', fs') := by
  obtain ⟨buffer, file, more, hhandle, hmore, rfl⟩ := remaining?_eq_some_iff.mp h
  have hfile : d.file? = some file := by rw [file?, hhandle]; rfl
  have hfetch : ∀ m, ∃ bytes, (fetch (file, fs) m).1 = .done bytes := fun m =>
    FileSystem.read_of_not_awaited hmore (fun hawaited => hended ⟨file, hfile, hawaited⟩) m
  obtain ⟨bytes, hdone⟩ := Buffer.read_returns hfetch buffer n
  rw [read_reader hhandle, hdone]
  exact ⟨bytes, _, _, rfl⟩

theorem available_of_remaining (h : d.remaining? fs = some rest) : d.available fs = rest.length := by
  obtain ⟨buffer, file, more, hhandle, hmore, rfl⟩ := remaining?_eq_some_iff.mp h
  unfold available
  rw [hhandle, List.length_append]
  refine congrArg (buffer.length + ·) ?_
  have haccess := FileSystem.access_of_rest hmore
  rw [FileSystem.rest?, if_neg haccess] at hmore
  cases hnode : fs.node file.node with
  | file mode content =>
    rw [hnode] at hmore
    cases hmore
    rw [List.length_drop, Array.length_toList]
    rfl
  | fifo mode pipe =>
    rw [hnode] at hmore
    cases hmore
    exact (ByteQueue.length_toList _).symm
  | channel pipe =>
    rw [hnode] at hmore
    cases hmore
    exact (ByteQueue.length_toList _).symm
  | null =>
    rw [hnode] at hmore
    cases hmore
    rfl
  | directory | full | zero | program =>
    rw [hnode] at hmore
    cases hmore

/-- Reading chunk by chunk gives all that remains, once no more may come. -/
theorem readChunks_remaining {fuel : Nat} (h : d.remaining? fs = some rest) (hended : ¬d.Awaited fs)
    (hfuel : rest.length < fuel) :
    ∃ d' fs', d.readChunks fuel fs = (.ok rest, d', fs') ∧ d'.remaining? fs' = some [] := by
  -- more fuel than bytes: the last of it is for the chunk that is empty
  induction fuel generalizing d fs rest with
  | zero => exact absurd hfuel (Nat.not_lt_zero _)
  | succ fuel ih =>
    obtain ⟨bytes, d₁, fs₁, hread⟩ := read_of_not_awaited h hended textChunk
    obtain ⟨more, hrest, hmore, hend⟩ := read_remaining h (by decide) hread
    unfold readChunks
    rw [hread]
    cases bytes with
    | nil =>
      obtain rfl : rest = [] := hend rfl
      obtain rfl : more = [] := hrest.symm
      exact ⟨d₁, fs₁, rfl, hmore⟩
    | cons first others =>
      -- the chunk has a byte at least, so less remains than did
      have hless : more.length < fuel := by
        rw [hrest, List.length_append] at hfuel
        simp only [Attempt.given, List.length_cons] at hfuel
        omega
      obtain ⟨d₂, fs₂, hchunks, hnone⟩ := ih hmore (read_not_awaited hended hread) hless
      simp only [hchunks]
      exact ⟨d₂, fs₂, by rw [hrest]; rfl, hnone⟩

/-- **The text of a dataset is that of all that remains.** -/
theorem readText_remaining (h : d.remaining? fs = some rest) (hended : ¬d.Awaited fs) :
    ∃ d' fs', d.readText fs = (.ok (some (String.ofList (Text.decodeLossy rest))), d', fs') ∧
      d'.remaining? fs' = some [] := by
  have hopen : d.isOpen = true := by
    obtain ⟨buffer, file, -, hhandle, -⟩ := remaining?_eq_some_iff.mp h
    rw [isOpen, hhandle]
    rfl
  have hfuel : rest.length < d.available fs + 1 := by
    rw [available_of_remaining h]
    exact Nat.lt_succ_self _
  obtain ⟨d', fs', hchunks, hnone⟩ := readChunks_remaining h hended hfuel
  refine ⟨d', fs', ?_, hnone⟩
  rw [readText, if_pos hopen, hchunks]

theorem write_reader {buffer : Bytes} {file : OpenFile} (hhandle : d.handle = some (.reader buffer file))
    (bytes : Bytes) (fs : FileSystem) : d.write bytes fs = (.error (.wrongMode d.name .read), d, fs) := by
  rw [write, hhandle]

/-- A read takes from what is buffered, if anything is, and leaves the device alone. -/
theorem read_buffered {buffer : Bytes} {file : OpenFile} (hhandle : d.handle = some (.reader buffer file))
    (hbuffer : buffer ≠ []) (n : Nat) (fs : FileSystem) :
    d.read n fs = (.done (buffer.take n), { d with handle := some (.reader (buffer.drop n) file) }, fs) := by
  have hsome : buffer.isEmpty = false := Bool.eq_false_iff.mpr (mt List.isEmpty_iff.mp hbuffer)
  have hread : Buffer.read fetch buffer n (file, fs) = (.done (buffer.take n), buffer.drop n, file, fs) := by
    rw [Buffer.read, hsome, if_neg Bool.false_ne_true]
  rw [read_reader hhandle, hread]
  rfl

/-- There is a node to wait on for an open reader with nothing in its buffer, and for nothing else. -/
theorem poll_eq_none_iff : d.poll fs = none ↔ ∀ buffer file, d.handle = some (.reader buffer file) → buffer ≠ [] := by
  unfold poll
  split
  next file hhandle => exact ⟨nofun, fun h => absurd rfl (h [] file hhandle)⟩
  next hhandle =>
    refine ⟨fun _ buffer file hsame hnil => ?_, fun _ => rfl⟩
    rw [hnil] at hsame
    exact hhandle file hsame

/-! ## Every sequence of reads -/

/-- What becomes of a dataset in reads, whatever they come to, and in attempts to write to it, with the bytes that the
reads have given. In between others may change the file system, but not what the node of the dataset has to give. -/
inductive Served (d : Dataset) (fs : FileSystem) : Bytes → Dataset → FileSystem → Prop
  | start : Served d fs [] d fs
  | read {given d₁ fs₁ n result d₂ fs₂} (so : Served d fs given d₁ fs₁) (some : 0 < n)
      (call : d₁.read n fs₁ = (result, d₂, fs₂)) : Served d fs (given ++ result.given) d₂ fs₂
  | write {given d₁ fs₁ bytes result d₂ fs₂} (so : Served d fs given d₁ fs₁)
      (call : d₁.write bytes fs₁ = (result, d₂, fs₂)) : Served d fs given d₂ fs₂
  | others {given d₁ fs₁ fs₂} (so : Served d fs given d₁ fs₁)
      (unchanged : ∀ file, d₁.file? = some file → fs₂.rest? file = fs₁.rest? file) : Served d fs given d₁ fs₂

/-- What has been given and what remains are the content, in order. -/
theorem Served.remaining {given content : Bytes} (h : Served d fs given d' fs')
    (hcontent : d.remaining? fs = some content) :
    ∃ rest, content = given ++ rest ∧ d'.remaining? fs' = some rest ∧ d'.name = d.name := by
  induction h with
  | start => exact ⟨content, rfl, hcontent, rfl⟩
  | read _ hsome hread ih =>
    obtain ⟨rest, hall, hrest, hname⟩ := ih
    obtain ⟨more, hmore, hremaining, -⟩ := read_remaining hrest hsome hread
    obtain ⟨_, _, -, hhandle, -⟩ := remaining?_eq_some_iff.mp hrest
    refine ⟨more, by rw [hall, hmore, List.append_assoc], hremaining, ?_⟩
    rw [read_reader hhandle] at hread
    cases hread
    exact hname
  | write _ hwrite ih =>
    obtain ⟨rest, hall, hrest, hname⟩ := ih
    obtain ⟨_, _, -, hhandle, -⟩ := remaining?_eq_some_iff.mp hrest
    rw [write_reader hhandle] at hwrite
    cases hwrite
    exact ⟨rest, hall, hrest, hname⟩
  | @others _ d₁ _ _ _ hunchanged ih =>
    obtain ⟨rest, hall, hrest, hname⟩ := ih
    obtain ⟨buffer, file, more, hhandle, hmore, rfl⟩ := remaining?_eq_some_iff.mp hrest
    have hfile : d₁.file? = some file := by rw [file?, hhandle]; rfl
    have hmore' := (hunchanged file hfile).trans hmore
    exact ⟨_, hall, remaining?_eq_some_iff.mpr ⟨buffer, file, more, hhandle, hmore', rfl⟩, hname⟩

/-- **A dataset is read from front to back.** Whatever was read of it and tried with it, the bytes given so far and what
remains are its content; a read gives a first part of what remains, and none only at the end; a write is refused and
changes nothing; the text that is read last is that of all that remains. In any state there is a node to wait on just
for an open reader with nothing in its buffer, and what is buffered is given without a call of the device. -/
theorem content_in_order {name : String} {file : OpenFile} {content given : Bytes}
    (hcontent : fs.rest? file = some content) (hserved : Served (ofFile name file .read) fs given d fs') :
    (∃ rest, content = given ++ rest ∧
      (∀ n bytes d' fs'', 0 < n → d.read n fs' = (.done bytes, d', fs'') →
        bytes <+: rest ∧ bytes.length ≤ n ∧ (bytes = [] → rest = [])) ∧
      (∀ bytes, d.write bytes fs' = (.error (.wrongMode name .read), d, fs')) ∧
      (¬d.Awaited fs' →
        (∀ n, ∃ bytes d' fs'', d.read n fs' = (.done bytes, d', fs'')) ∧
        ∃ text d' fs'', d.readText fs' = (.ok (some text), d', fs'') ∧ text = String.ofList (Text.decodeLossy rest) ∧
          (∀ chars, rest = Text.encode chars → text = String.ofList chars) ∧ d'.remaining? fs'' = some [])) ∧
    ∀ (stream : Dataset) (machine : FileSystem),
      (stream.poll machine = none ↔ ∀ buffer file, stream.handle = some (.reader buffer file) → buffer ≠ []) ∧
      ∀ buffer file n, stream.handle = some (.reader buffer file) → buffer ≠ [] → 0 < n → buffer.take n ≠ [] ∧
        stream.read n machine =
          (.done (buffer.take n), { stream with handle := some (.reader (buffer.drop n) file) }, machine) := by
  have hstart : (ofFile name file .read).remaining? fs = some content :=
    remaining?_eq_some_iff.mpr ⟨[], file, content, rfl, hcontent, rfl⟩
  obtain ⟨rest, hall, hrest, hname⟩ := hserved.remaining hstart
  refine ⟨⟨rest, hall, ?_, ?_, fun hended => ⟨read_of_not_awaited hrest hended, ?_⟩⟩, fun stream machine =>
    ⟨poll_eq_none_iff, ?_⟩⟩
  · intro n bytes d' fs'' hn hread
    obtain ⟨more, hmore, -, hend⟩ := read_remaining hrest hn hread
    exact ⟨⟨more, hmore.symm⟩, read_length hread, hend⟩
  · intro bytes
    obtain ⟨_, _, -, hhandle, -⟩ := remaining?_eq_some_iff.mp hrest
    rw [write_reader hhandle, hname]
    rfl
  · obtain ⟨d', fs'', htext, hnone⟩ := readText_remaining hrest hended
    refine ⟨_, d', fs'', htext, rfl, ?_, hnone⟩
    rintro chars rfl
    rw [Text.decodeLossy_encode]
  · intro buffer file n hhandle hbuffer hn
    refine ⟨fun hnil => ?_, read_buffered hhandle hbuffer n machine⟩
    rcases List.take_eq_nil_iff.mp hnil with hzero | hempty
    · exact absurd hzero (Nat.ne_of_gt hn)
    · exact hbuffer hempty

/-- The character é is cut in two by a read of two bytes; what the text has of it is U+FFFD. -/
theorem content_in_order_cut :
    let file : OpenFile := { node := 0, access := .read }
    let fs : FileSystem := ⟨[], #[.file 0o644 ⟨#[0x61, 0xC3, 0xA9, 0xE2, 0x82, 0xAC]⟩], []⟩
    let d : Dataset := ⟨"IN", some (.reader [0xA9, 0xE2, 0x82, 0xAC] { file with offset := 6 })⟩
    fs.rest? file = some [0x61, 0xC3, 0xA9, 0xE2, 0x82, 0xAC] ∧ Served (ofFile "IN" file .read) fs [0x61, 0xC3] d fs ∧
      d.poll fs = none ∧ ∃ d' fs', d.readText fs = (.ok (some "\uFFFD€"), d', fs') := by
  intro file fs d
  have hcontent : fs.rest? file = some [0x61, 0xC3, 0xA9, 0xE2, 0x82, 0xAC] := rfl
  have hread : (ofFile "IN" file .read).read 2 fs = (.done [0x61, 0xC3], d, fs) := by
    subst d fs file
    cbv
  have hwrite : d.write [0x62] fs = (.error (.wrongMode "IN" .read), d, fs) := rfl
  have hserved : Served (ofFile "IN" file .read) fs [0x61, 0xC3] d fs :=
    (Served.start.read (by decide) hread).write hwrite
  obtain ⟨⟨rest, hrest, -, -, hlast⟩, hpoll⟩ := content_in_order hcontent hserved
  obtain rfl : [0xA9, 0xE2, 0x82, 0xAC] = rest := by simpa using hrest
  have hended : ¬d.Awaited fs := by
    rintro ⟨_, ⟨⟩, pipe, hpipe, -⟩
    cases hpipe
  obtain ⟨-, text, d', fs', htext, hlossy, -⟩ := hlast hended
  have hdecoded : String.ofList (Text.decodeLossy [0xA9, 0xE2, 0x82, 0xAC]) = "\uFFFD€" := by cbv
  rw [hlossy, hdecoded] at htext
  have hunpolled : d.poll fs = none := by
    rw [(hpoll d fs).1]
    rintro _ _ ⟨⟩
    decide
  exact ⟨hcontent, hserved, hunpolled, d', fs', htext⟩

end Dataset

end BatchJob
