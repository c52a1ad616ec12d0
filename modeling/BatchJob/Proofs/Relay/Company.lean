import BatchJob.Proofs.Pipe.Transfer
import BatchJob.Relay.Plumbing

/-!
# What other parties do to the plumbing

The child, its descendants and whoever posts the shutdown signal act on the plumbing between any two steps
of the relay. This file says once what such an action can do, so that no invariant has to look at the
actions again:

* to an output (`Effect.grows`): it adds bytes at the back, and only while somebody can write and
  somebody can read; a writer that is gone does not come back; the relay's own end stays as it is;
* to the input (`Effect.accepted_eq`): it moves bytes from the pipe to the child, so that what the pipe has
  accepted in all stays the same;
* to the signal (`Effect.signal_eq`): only a post touches it.

`Unrelayed` describes plumbing as a run finds it: nothing has been taken out of an output, and nothing was
put into the input. Freshly laid plumbing is so (`unrelayed_fresh`).
-/

namespace BatchJob.Plumbing

variable {p p' : Plumbing} {action : Action} {c c' : OutputChannel}

/-! ## The two outputs are independent -/

@[simp] theorem output_setOutput (p : Plumbing) (c : OutputChannel) (pipe : Pipe) :
    (p.setOutput c pipe).output c = pipe := by
  cases c <;> rfl

theorem output_setOutput_ne (h : c' ≠ c) (pipe : Pipe) : (p.setOutput c pipe).output c' = p.output c' := by
  cases c <;> cases c' <;> first | rfl | exact absurd rfl h

@[simp] theorem wrote_setOutput (p : Plumbing) (c c' : OutputChannel) (pipe : Pipe) :
    (p.setOutput c pipe).wrote c' = p.wrote c' := by
  cases c <;> cases c' <;> rfl

@[simp] theorem stdin_setOutput (p : Plumbing) (c : OutputChannel) (pipe : Pipe) :
    (p.setOutput c pipe).stdin = p.stdin := by
  cases c <;> rfl

@[simp] theorem received_setOutput (p : Plumbing) (c : OutputChannel) (pipe : Pipe) :
    (p.setOutput c pipe).received = p.received := by
  cases c <;> rfl

@[simp] theorem shutdown_setOutput (p : Plumbing) (c : OutputChannel) (pipe : Pipe) :
    (p.setOutput c pipe).shutdown = p.shutdown := by
  cases c <;> rfl

@[simp] theorem output_noteWrite (p : Plumbing) (c c' : OutputChannel) (bytes : Bytes) :
    (p.noteWrite c bytes).output c' = p.output c' := by
  cases c <;> cases c' <;> rfl

@[simp] theorem wrote_noteWrite (p : Plumbing) (c : OutputChannel) (bytes : Bytes) :
    (p.noteWrite c bytes).wrote c = p.wrote c ++ bytes := by
  cases c <;> simp [noteWrite, wrote]

theorem wrote_noteWrite_ne (h : c' ≠ c) (bytes : Bytes) : (p.noteWrite c bytes).wrote c' = p.wrote c' := by
  cases c <;> cases c' <;> first | rfl | exact absurd rfl h

@[simp] theorem stdin_noteWrite (p : Plumbing) (c : OutputChannel) (bytes : Bytes) :
    (p.noteWrite c bytes).stdin = p.stdin := by
  cases c <;> rfl

@[simp] theorem received_noteWrite (p : Plumbing) (c : OutputChannel) (bytes : Bytes) :
    (p.noteWrite c bytes).received = p.received := by
  cases c <;> rfl

@[simp] theorem shutdown_noteWrite (p : Plumbing) (c : OutputChannel) (bytes : Bytes) :
    (p.noteWrite c bytes).shutdown = p.shutdown := by
  cases c <;> rfl

/-! ## The effect of an action -/

/-- Whoever holds a write end can write. -/
theorem hasWriter_of_holdsOutput (h : p.holdsOutput c = true) : (p.output c).hasWriter = true := by
  unfold holdsOutput at h
  unfold Pipe.hasWriter
  rw [h, Bool.or_true]

/-- What an action of another party does, case by case. -/
inductive Effect (p : Plumbing) : Action → Plumbing → Prop
  /-- The action has no effect. -/
  | idle (action : Action) : Effect p action p
  | posted : Effect p .post { p with shutdown := p.shutdown.post }
  | wrote {c : OutputChannel} {bytes : Bytes} {n : Nat} {pipe : Pipe} (holder : p.holdsOutput c = true)
      (offer : (p.output c).offer bytes = (.done n, pipe)) :
      Effect p (.emit c bytes) ((p.setOutput c pipe).noteWrite c (bytes.take n))
  | shared {c : OutputChannel} (holder : p.holdsOutput c = true) :
      Effect p (.share c)
        (p.setOutput c { p.output c with writeDuplicates := (p.output c).writeDuplicates + 1 })
  | ended (c : OutputChannel) : Effect p (.endOutput c) (p.setOutput c ((p.output c).dropDuplicate .write))
  | took {n : Nat} {bytes : Bytes} {stdin : Pipe} (fetch : p.stdin.fetch n = (.done bytes, stdin)) :
      Effect p (.take n) { p with stdin, received := bytes :: p.received }
  | endedInput : Effect p .endInput { p with stdin := p.stdin.dropDuplicate .read }

theorem perform_effect (p : Plumbing) (action : Action) : Effect p action (p.perform action) := by
  cases action with
  | post => exact .posted
  | emit channel bytes =>
    simp only [perform]
    split
    next hheld =>
      split
      next n pipe hoffer => exact .wrote hheld hoffer
      next => exact .idle _
    next => exact .idle _
  | share channel =>
    simp only [perform]
    split
    next hheld => exact .shared hheld
    next => exact .idle _
  | endOutput channel => exact .ended channel
  | take n =>
    simp only [perform]
    split
    next =>
      split
      next bytes stdin hfetch => exact .took hfetch
      next => exact .idle _
    next => exact .idle _
  | endInput => exact .endedInput

/-! ## Outputs -/

/-- Between two moments other parties have added `more` to an output. -/
structure OutputGrows (before after : Plumbing) (c : OutputChannel) (more : Bytes) : Prop where
  wrote : after.wrote c = before.wrote c ++ more
  queue : (after.output c).queue.toList = (before.output c).queue.toList ++ more
  readOpen : (after.output c).readOpen = (before.output c).readOpen
  hasReader : (after.output c).hasReader = (before.output c).hasReader
  /-- A writer that is gone does not come back. -/
  hasWriter : (before.output c).hasWriter = false → (after.output c).hasWriter = false
  /-- Bytes come only from somebody who can write, and only while somebody can read. -/
  possible : more ≠ [] → (before.output c).hasWriter = true ∧ (before.output c).hasReader = true

theorem OutputGrows.same {before after : Plumbing} (hwrote : after.wrote c = before.wrote c)
    (houtput : after.output c = before.output c) : OutputGrows before after c [] where
  wrote := by rw [hwrote, List.append_nil]
  queue := by rw [houtput, List.append_nil]
  readOpen := by rw [houtput]
  hasReader := by rw [houtput]
  hasWriter h := by rw [houtput, h]
  possible h := absurd rfl h

/-- A change of one output pipe that leaves its bytes and its readers alone. -/
theorem setOutput_grows {pipe : Pipe} (hqueue : pipe.queue = (p.output c).queue)
    (hopen : pipe.readOpen = (p.output c).readOpen) (hread : pipe.hasReader = (p.output c).hasReader)
    (hwrite : (p.output c).hasWriter = false → pipe.hasWriter = false) (c' : OutputChannel) :
    OutputGrows p (p.setOutput c pipe) c' [] := by
  by_cases hc : c' = c
  · subst hc
    refine ⟨?_, ?_, ?_, ?_, ?_, fun h => absurd rfl h⟩
    · rw [wrote_setOutput, List.append_nil]
    · rw [output_setOutput, hqueue, List.append_nil]
    · rw [output_setOutput, hopen]
    · rw [output_setOutput, hread]
    · rw [output_setOutput]
      exact hwrite
  · exact .same (wrote_setOutput ..) (output_setOutput_ne hc _)

/-- An accepted write adds its prefix to its own output. -/
theorem offer_grows {bytes : Bytes} {n : Nat} {pipe : Pipe} (holder : p.holdsOutput c = true)
    (offer : (p.output c).offer bytes = (.done n, pipe)) (c' : OutputChannel) :
    ∃ more, OutputGrows p ((p.setOutput c pipe).noteWrite c (bytes.take n)) c' more := by
  by_cases hc : c' = c
  · subst hc
    obtain ⟨hends, -, hqueue⟩ := Pipe.offer_done offer
    refine ⟨bytes.take n, ?_, ?_, ?_, ?_, ?_, ?_⟩
    · rw [wrote_noteWrite, wrote_setOutput]
    · rw [output_noteWrite, output_setOutput, hqueue]
    · rw [output_noteWrite, output_setOutput, hends]
    · rw [output_noteWrite, output_setOutput, hends.hasReader]
    · rw [output_noteWrite, output_setOutput, hends.hasWriter]
      exact id
    · intro hmore
      refine ⟨hasWriter_of_holdsOutput holder, ?_⟩
      cases hreader : (p.output c').hasReader with
      | true => rfl
      | false =>
        -- a pipe that nobody reads accepts nothing
        obtain ⟨hnil, -⟩ := Pipe.offer_done_unread hreader offer
        exact absurd (by rw [hnil, List.take_nil]) hmore
  · refine ⟨[], .same ?_ ?_⟩
    · rw [wrote_noteWrite_ne hc, wrote_setOutput]
    · rw [output_noteWrite, output_setOutput_ne hc]

/-- What an action of another party does to an output. -/
theorem Effect.grows (h : Effect p action p') (c : OutputChannel) : ∃ more, OutputGrows p p' c more := by
  cases h with
  | idle => exact ⟨[], .same rfl rfl⟩
  | posted => exact ⟨[], .same rfl rfl⟩
  | wrote holder offer => exact offer_grows holder offer c
  | shared holder =>
    refine ⟨[], setOutput_grows ?_ ?_ ?_ ?_ c⟩
    · rfl
    · rfl
    · rfl
    · rw [hasWriter_of_holdsOutput holder]
      exact fun h => absurd h Bool.noConfusion
  | ended channel =>
    refine ⟨[], setOutput_grows ?_ ?_ ?_ ?_ c⟩
    · rfl
    · rfl
    · rfl
    · simp only [Pipe.hasWriter, Pipe.dropDuplicate, Bool.or_eq_false_iff, decide_eq_false_iff_not]
      rintro ⟨hopen, hdup⟩
      exact ⟨hopen, decide_eq_false (by omega)⟩
  | took => exact ⟨[], .same rfl rfl⟩
  | endedInput => exact ⟨[], .same rfl rfl⟩

/-- Only a write adds to what was written. -/
theorem Effect.wrote_eq (h : Effect p action p') (hno : ∀ channel bytes, action ≠ .emit channel bytes)
    (c : OutputChannel) : p'.wrote c = p.wrote c := by
  cases h with
  | wrote => exact absurd rfl (hno _ _)
  | shared => exact wrote_setOutput ..
  | ended => exact wrote_setOutput ..
  | idle | posted | took | endedInput => rfl

/-- What is sealed stays sealed, and nothing more is written to it. -/
theorem OutputGrows.sealed {before after : Plumbing} {more : Bytes} (hg : OutputGrows before after c more)
    (hs : (before.output c).Sealed) : more = [] ∧ (after.output c).Sealed := by
  have hmore : more = [] := by
    cases more with
    | nil => rfl
    | cons b rest =>
      obtain ⟨hw, hr⟩ := hg.possible (List.cons_ne_nil b rest)
      rcases hs.shut with h | h
      · rw [hw] at h
        cases h
      · rw [hr] at h
        cases h
  refine ⟨hmore, ?_, ?_⟩
  · rw [hg.queue, hs.empty, hmore, List.append_nil]
  · exact hs.shut.imp hg.hasWriter fun h => by rw [hg.hasReader, h]

/-! ## The input -/

/-- What the child's input pipe has accepted so far: what the child has read, then what is still queued. -/
def accepted (p : Plumbing) : Bytes :=
  p.childInput ++ p.stdin.queue.toList

/-- What is put at the back of the pipe has been accepted. -/
theorem accepted_offer {stdin : Pipe} {more : Bytes} (h : stdin.queue.toList = p.stdin.queue.toList ++ more) :
    ({ p with stdin } : Plumbing).accepted = p.accepted ++ more := by
  unfold accepted
  rw [h, ← List.append_assoc]
  rfl

/-- An action of another party moves bytes of the input and neither adds nor loses any. -/
theorem Effect.accepted_eq (h : Effect p action p') : p'.accepted = p.accepted := by
  cases h with
  | wrote => simp [accepted, childInput]
  | shared => simp [accepted, childInput]
  | ended => simp [accepted, childInput]
  | took fetch =>
    obtain ⟨-, hqueue, -⟩ := Pipe.fetch_done fetch
    simp [accepted, childInput, ← hqueue]
  | idle | posted | endedInput => rfl

/-- The relay's end of the input pipe is its own. -/
theorem Effect.ownEnd_eq (h : Effect p action p') :
    p'.stdin.writeOpen = p.stdin.writeOpen ∧ p'.stdin.writeNonblocking = p.stdin.writeNonblocking := by
  cases h with
  | wrote =>
    rw [stdin_noteWrite, stdin_setOutput]
    exact ⟨rfl, rfl⟩
  | shared | ended =>
    rw [stdin_setOutput]
    exact ⟨rfl, rfl⟩
  | took fetch =>
    rw [(Pipe.fetch_done fetch).1]
    exact ⟨rfl, rfl⟩
  | idle | posted | endedInput => exact ⟨rfl, rfl⟩

theorem Effect.writeOpen_eq (h : Effect p action p') : p'.stdin.writeOpen = p.stdin.writeOpen :=
  h.ownEnd_eq.1

/-! ## The signal -/

/-- An action that is no post leaves the signal as it is. -/
theorem Effect.signal_eq (h : Effect p action p') (hno : action ≠ .post) : p'.shutdown = p.shutdown := by
  cases h with
  | posted => exact absurd rfl hno
  | wrote => rw [shutdown_noteWrite, shutdown_setOutput]
  | shared => rw [shutdown_setOutput]
  | ended => rw [shutdown_setOutput]
  | idle | took | endedInput => rfl

/-! ## Plumbing as a run finds it -/

/-- Nothing was relayed yet: what was written to the outputs is still in them, the input pipe has taken
nothing, and an output that the relay cannot read is sealed. -/
structure Unrelayed (p : Plumbing) : Prop where
  queued : ∀ c, p.wrote c = (p.output c).queue.toList
  untaken : p.accepted = []
  shut : ∀ c, (p.output c).readOpen = false → (p.output c).Sealed

theorem unrelayed_fresh : fresh.Unrelayed where
  queued c := by cases c <;> rfl
  untaken := rfl
  shut c h := by cases c <;> cases h

end BatchJob.Plumbing
