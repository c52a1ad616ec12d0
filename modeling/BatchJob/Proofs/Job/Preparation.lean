import BatchJob.Job.Basic
import BatchJob.Proofs.Dataset.Writing
import BatchJob.Proofs.FileSystem.Opening

/-!
# What a preparation leaves behind

A preparation that succeeds has run all of its steps, each from the desk that the one before has left
(`Preparing.bind_ok`). So the job that is about to start has fresh plumbing, and its datasets are as they were
opened: each is unopened, or open in its own direction with nothing in its buffer (`Dataset.Fresh`), and SYSOUT
is always open. A file that was opened for output has nothing in it, whatever was opened after it
(`Dataset.StartsBlank`).

Main statement: `Job.create_ok`.
-/

namespace BatchJob

/-! ## Fresh datasets -/

namespace Dataset

variable {d : Dataset} {mode : OpenMode}

/-- The handle of a dataset that was just opened. -/
def freshHandle (file : OpenFile) : OpenMode → Handle
  | .read => .reader [] file
  | .write => .writer [] file

/-- A dataset that is not open, or was just opened in a direction. -/
def Fresh (d : Dataset) (mode : OpenMode) : Prop :=
  ∀ handle, d.handle = some handle → ∃ file, handle = freshHandle file mode

theorem fresh_unopened (name : String) (mode : OpenMode) : (unopened name).Fresh mode :=
  nofun

theorem fresh_ofFile (name : String) (file : OpenFile) (mode : OpenMode) : (ofFile name file mode).Fresh mode := by
  cases mode <;> rintro handle ⟨⟩ <;> exact ⟨file, rfl⟩

/-- Nothing waits in the buffer of a fresh dataset. -/
theorem Fresh.emptied (h : d.Fresh mode) : d.Emptied := by
  intro buffer file hhandle
  obtain ⟨file', hfresh⟩ := h _ hhandle
  cases mode <;> cases hfresh
  rfl

theorem isOpen_ofFile (name : String) (file : OpenFile) (mode : OpenMode) :
    (ofFile name file mode).isOpen = true := by
  cases mode <;> rfl

/-- A dataset that is written starts at the start of a blank node. -/
def StartsBlank (d : Dataset) (fs : FileSystem) : Prop :=
  ∀ buffer file, d.handle = some (.writer buffer file) → file.offset = 0 ∧ (fs.node file.node).Blank

variable {fs fs' : FileSystem}

theorem StartsBlank.mono (h : d.StartsBlank fs) (keep : fs.KeepsBlank fs') : d.StartsBlank fs' := by
  intro buffer file hhandle
  obtain ⟨hoffset, hblank⟩ := h buffer file hhandle
  exact ⟨hoffset, keep _ hblank⟩

/-- There is nothing in a regular file that a blank dataset writes. -/
theorem StartsBlank.holds_nil (h : d.StartsBlank fs) {id : NodeId} {before : Bytes} (writes : d.Writes fs id)
    (holds : fs.Holds id before) : before = [] := by
  obtain ⟨file, hhandle, rfl, -⟩ := writes
  obtain ⟨mode, content, hnode, rfl⟩ := holds
  obtain ⟨-, hblank⟩ := h [] file hhandle
  rw [hnode] at hblank
  cases hblank
  rfl

theorem startsBlank_unopened (name : String) (fs : FileSystem) : (unopened name).StartsBlank fs :=
  nofun

/-- What is opened at a path is fresh, and blank if it is to be written. -/
theorem openAt_ok {name : String} {path : Option String} {required : Bool} {lines : List LogLine}
    (h : openAt fs name path mode required = .ok (d, lines, fs')) :
    d.Fresh mode ∧ d.StartsBlank fs' ∧ fs.KeepsBlank fs' := by
  unfold openAt at h
  split at h
  next =>
    split at h
    next => cases h
    next =>
      cases h
      exact ⟨fresh_unopened name mode, startsBlank_unopened name fs, .rfl⟩
  next path =>
    split at h
    next file fs'' hopen =>
      cases h
      refine ⟨fresh_ofFile name _ mode, ?_⟩
      cases mode with
      | read => exact ⟨nofun, FileSystem.openExisting_keepsBlank hopen⟩
      | write =>
        obtain ⟨hoffset, hblank, hkeep⟩ := FileSystem.openCreate_blank hopen
        refine ⟨?_, hkeep⟩
        rintro buffer file' ⟨⟩
        exact ⟨hoffset, hblank⟩
    next =>
      split at h
      next => cases h
      next => split at h <;> cases h <;> exact ⟨fresh_unopened name mode, startsBlank_unopened name fs, .rfl⟩

/-- A read fills nothing. -/
theorem read_keepsBlank (d : Dataset) (n : Nat) (fs : FileSystem) : fs.KeepsBlank (d.read n fs).2.2 := by
  unfold read
  split
  next => exact .rfl
  next => exact .rfl
  next buffer file _ =>
    have hfetch : ∀ device n, fs.KeepsBlank device.2 → fs.KeepsBlank (fetch device n).2.2 :=
      fun device n hkeep => hkeep.trans (device.2.read_keepsBlank device.1 n)
    exact Buffer.read_keeps hfetch buffer n (file, fs) .rfl

theorem readChunks_keepsBlank (fuel : Nat) {d : Dataset} (h : d.Emptied) (fs : FileSystem) :
    fs.KeepsBlank (readChunks fuel d fs).2.2 ∧ (readChunks fuel d fs).2.1.Emptied := by
  induction fuel generalizing d fs with
  | zero => exact ⟨.rfl, h⟩
  | succ fuel ih =>
    have hkeep := d.read_keepsBlank textChunk fs
    have hemptied := read_emptied h textChunk fs
    unfold readChunks
    rcases hread : d.read textChunk fs with ⟨result, d', fs'⟩
    rw [hread] at hkeep hemptied
    obtain ⟨hrest, hrest'⟩ := ih hemptied fs'
    split
    next heq =>
      cases heq
      exact ⟨hkeep, hemptied⟩
    next heq =>
      cases heq
      exact ⟨hkeep, hemptied⟩
    next heq =>
      cases heq
      exact ⟨hkeep, hemptied⟩
    next heq =>
      cases heq
      split
      next hchunks =>
        rw [hchunks] at hrest hrest'
        exact ⟨hkeep.trans hrest, hrest'⟩
      next hchunks =>
        rw [hchunks] at hrest hrest'
        exact ⟨hkeep.trans hrest, hrest'⟩

/-- Reading all of a dataset and closing it fills nothing. -/
theorem readText_keepsBlank (h : d.Emptied) (fs : FileSystem) :
    fs.KeepsBlank (d.readText fs).2.2 ∧ (d.readText fs).2.1.Emptied := by
  unfold readText
  split
  next =>
    have hchunks := readChunks_keepsBlank (d.available fs + 1) h fs
    split
    next heq =>
      rw [heq] at hchunks
      exact hchunks
    next heq =>
      rw [heq] at hchunks
      exact hchunks
  next => exact ⟨.rfl, h⟩

theorem close_keepsBlank (h : d.Emptied) (fs : FileSystem) : fs.KeepsBlank (d.close fs).2.2 := by
  unfold close
  split
  next => exact .rfl
  next => exact fs.close_keepsBlank _
  next buffer file hhandle =>
    rw [h buffer file hhandle, Buffer.release_nil]
    exact fs.close_keepsBlank file

end Dataset

/-! ## The steps of a preparation -/

namespace Preparing

variable {α β : Type} {desk desk' : Desk}

/-- The result of a step at a desk, and the desk that it leaves. -/
def runAt (step : Preparing α) (desk : Desk) : Except JobError α × Desk :=
  step.run.run desk

/-- A step that succeeds is followed by the next one; one that fails ends the preparation. -/
theorem runAt_bind (first : Preparing α) (next : α → Preparing β) (desk : Desk) :
    (first >>= next).runAt desk =
      match first.runAt desk with
      | (.ok a, between) => (next a).runAt between
      | (.error e, between) => (.error e, between) := by
  show (match first.runAt desk with
    | (result, between) => ExceptT.bindCont next result between) = _
  rcases first.runAt desk with ⟨_ | _, _⟩ <;> rfl

/-- If two steps in a row succeed, both do. -/
theorem bind_ok {first : Preparing α} {next : α → Preparing β} {b : β}
    (h : (first >>= next).runAt desk = (.ok b, desk')) :
    ∃ a between, first.runAt desk = (.ok a, between) ∧ (next a).runAt between = (.ok b, desk') := by
  rw [runAt_bind] at h
  rcases hfirst : first.runAt desk with ⟨_ | a, between⟩
  · rw [hfirst] at h
    cases h
  · rw [hfirst] at h
    exact ⟨a, between, rfl, h⟩

theorem ofExcept_ok {ε : Type} {wrap : ε → JobError} {result : Except ε α} {a : α}
    (h : (ofExcept wrap result).runAt desk = (.ok a, desk')) : result = .ok a ∧ desk' = desk := by
  cases result <;> cases h
  exact ⟨rfl, rfl⟩

variable {config : Config} {vars : Variables}

/-- A dataset that was opened was opened at its path. -/
theorem openDataset_openAt {dataset : JobDataset} {mode : OpenMode} {d : Dataset}
    (h : (openDataset config vars dataset mode).runAt desk = (.ok d, desk')) :
    ∃ path lines, Dataset.openAt desk.files dataset.name path mode false = .ok (d, lines, desk'.files) := by
  obtain ⟨path, desk₁, hpath, h₁⟩ := bind_ok h
  obtain ⟨-, hdesk₁⟩ := ofExcept_ok hpath
  obtain ⟨now, desk₂, hnow, h₂⟩ := bind_ok h₁
  obtain ⟨⟨opened, lines, files⟩, desk₃, hopen, h₃⟩ := bind_ok h₂
  obtain ⟨hopened, hdesk₃⟩ := ofExcept_ok hopen
  obtain ⟨_, desk₄, hset, h₄⟩ := bind_ok h₃
  cases hnow
  cases hset
  cases h₄
  subst hdesk₁
  exact ⟨path, lines, hopened⟩

/-- What a dataset is opened as. -/
theorem openDataset_ok {dataset : JobDataset} {mode : OpenMode} {d : Dataset}
    (h : (openDataset config vars dataset mode).runAt desk = (.ok d, desk')) :
    d.Fresh mode ∧ d.StartsBlank desk'.files ∧ desk.files.KeepsBlank desk'.files := by
  obtain ⟨path, lines, hopened⟩ := openDataset_openAt h
  exact Dataset.openAt_ok hopened

/-- SYSOUT is always open: at its path, or else over the supervisor's standard output. -/
theorem openSystemOutput_ok {standardOutput : OpenFile} {d : Dataset}
    (h : (openSystemOutput config vars standardOutput).runAt desk = (.ok d, desk')) :
    d.Fresh .write ∧ d.isOpen = true := by
  obtain ⟨opened, between, hopened, h⟩ := bind_ok h
  split at h
  next hopen =>
    cases h
    exact ⟨(openDataset_ok hopened).1, hopen⟩
  next =>
    cases h
    exact ⟨Dataset.fresh_ofFile _ _ .write, Dataset.isOpen_ofFile ..⟩

/-- Reading the STDENV dataset fills nothing. -/
theorem readEnvironment_ok {dataset : Dataset} (fresh : dataset.Fresh .read) {text : Option String}
    (h : (readEnvironment dataset).runAt desk = (.ok text, desk')) : desk.files.KeepsBlank desk'.files := by
  obtain ⟨now, desk₁, hnow, h₁⟩ := bind_ok h
  cases hnow
  obtain ⟨hread, hemptied⟩ := Dataset.readText_keepsBlank fresh.emptied desk.files
  rcases hresult : dataset.readText desk.files with ⟨result, dataset', files⟩
  rw [hresult] at h₁ hread hemptied
  obtain ⟨text', desk₂, htext, h₂⟩ := bind_ok h₁
  have hclose := Dataset.close_keepsBlank hemptied files
  rcases hclosed : dataset'.close files with ⟨closed, left, files'⟩
  simp only [hclosed] at h₂ hclose
  obtain ⟨_, desk₃, hset, h₃⟩ := bind_ok h₂
  cases hset
  obtain ⟨_, desk₄, hok, h₄⟩ := bind_ok h₃
  obtain ⟨-, hdesk₄⟩ := ofExcept_ok hok
  cases h₄
  subst hdesk₄
  exact hread.trans hclose

/-- What a preparation gives to the relay. -/
structure Prepared (options : RunOptions) (relay : Relay FileSystem Dataset Dataset) : Prop where
  created : relay =
    .create .fresh relay.machine relay.input relay.outputs options.stopPolicy options.bufferSize
  input : relay.input.Fresh .read
  outputs : ∀ place, (relay.outputs.get place).Fresh .write
  fallback : relay.outputs.fallback.isOpen = true
  blank : ∀ place, place ≠ .fallback → (relay.outputs.get place).StartsBlank relay.machine

theorem prepare_ok {options : RunOptions} {account : Account} {standardOutput : OpenFile}
    {relay : Relay FileSystem Dataset Dataset} {environment : Environment}
    (h : (prepare options config vars account standardOutput).runAt desk = (.ok (relay, environment), desk')) :
    Prepared options relay := by
  obtain ⟨fallback, desk₁, hfallback, h⟩ := bind_ok h
  obtain ⟨input, desk₂, hinput, h⟩ := bind_ok h
  obtain ⟨stdout, desk₃, hstdout, h⟩ := bind_ok h
  obtain ⟨stderr, desk₄, hstderr, h⟩ := bind_ok h
  obtain ⟨stdenv, desk₅, hstdenv, h⟩ := bind_ok h
  obtain ⟨text, desk₆, htext, h⟩ := bind_ok h
  obtain ⟨now, desk₇, hnow, h⟩ := bind_ok h
  cases hnow
  cases h
  obtain ⟨hfresh, hopen⟩ := openSystemOutput_ok hfallback
  obtain ⟨hfreshOut, hblankOut, -⟩ := openDataset_ok hstdout
  obtain ⟨hfreshErr, hblankErr, hkeepErr⟩ := openDataset_ok hstderr
  obtain ⟨hfreshEnv, -, hkeepEnv⟩ := openDataset_ok hstdenv
  have hkeepText := readEnvironment_ok hfreshEnv htext
  -- what was opened for output stays blank through all that is opened and read after it
  refine ⟨rfl, (openDataset_ok hinput).1, fun place => ?_, hopen, fun place hplace => ?_⟩
  · cases place with
    | stdout => exact hfreshOut
    | stderr => exact hfreshErr
    | fallback => exact hfresh
  · cases place with
    | stdout => exact hblankOut.mono (hkeepErr.trans (hkeepEnv.trans hkeepText))
    | stderr => exact hblankErr.mono (hkeepEnv.trans hkeepText)
    | fallback => exact absurd rfl hplace

end Preparing

/-! ## Jobs that are about to start -/

namespace Job

variable {σ : Type}

/-- **A job that was prepared starts with fresh plumbing and fresh datasets, and its child was not started.** -/
theorem create_ok {options : RunOptions} {config : Config} {vars : Variables} {account : Account}
    {standardOutput : OpenFile} {files : FileSystem} {host : σ} {j : Job σ} {desk : Desk}
    (h : create options config vars account standardOutput files host = (.ok j, desk)) :
    Preparing.Prepared options j.relay ∧ j.phase = .spawning ∧ j.lifecycle = { log := desk.log, host } := by
  unfold create at h
  split at h
  next => cases h
  next relay environment left hprepare =>
    cases h
    exact ⟨Preparing.prepare_ok hprepare, rfl, rfl⟩

end Job

end BatchJob
