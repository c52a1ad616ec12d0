import Mathlib.Data.Bool.Basic
import BatchJob.Proofs.Relay.Ending
import BatchJob.Proofs.Relay.HalfClose

/-!
# Every wait leads to progress

A wait of the relay does not return in vain. Before the next wait the run has read a byte of the input or of an
output, the child's input has accepted one, an end of a pipe was closed, or the signal was seen for the first time
by a run that drains (`Progressed`). The one exception is the last iteration of a run that fails because the input
cannot be read (`ReadFailed`).

What was ready when the wait returned is ready still when its task is carried out: a descriptor that is at its end,
full, half-closed or signalled for good does not stay among those that are watched. Since none of what counts as
progress is ever undone (`Advances`), each wait can be charged to a part of it of its own (`earned`), and so a run
waits no more often than it moves bytes, up to a constant.

Main statement: `waits_progress`.
-/

namespace BatchJob

/-- Whether a task serves the input or an output, as those do that a wait puts on the agenda. -/
def RelayTask.serves : RelayTask → Bool
  | .serveInput | .serveOutput _ => true
  | _ => false

/-! ## Room in the child's input -/

/-- A read through any handle makes room. -/
theorem Pipe.fetch_room {p p' : Pipe} {n : Nat} {bytes : Bytes} (h : p.fetch n = (.done bytes, p')) :
    p.room ≤ p'.room := by
  obtain ⟨-, hqueue, -⟩ := Pipe.fetch_done h
  have hlen : bytes.length + p'.queue.size = p.queue.size := by
    rw [← ByteQueue.length_toList, ← ByteQueue.length_toList, ← hqueue, List.length_append]
  unfold Pipe.room
  omega

/-- An action of another party does not make the child's input any less writable. -/
theorem Plumbing.Effect.isWritable {p p' : Plumbing} {action : Action} (h : p.Effect action p')
    (writable : p.stdin.isWritable = true) : p'.stdin.isWritable = true := by
  unfold Pipe.isWritable at writable ⊢
  rw [Bool.or_eq_true, decide_eq_true_eq, Bool.not_eq_true'] at writable ⊢
  cases h with
  | wrote =>
    rw [stdin_noteWrite, stdin_setOutput]
    exact writable
  | shared | ended =>
    rw [stdin_setOutput]
    exact writable
  | took fetch =>
    refine writable.imp (fun hroom => Nat.lt_of_lt_of_le hroom (Pipe.fetch_room fetch)) fun hgone => ?_
    rw [← hgone]
    exact (Pipe.fetch_done fetch).1.hasReader
  | endedInput =>
    refine writable.imp id fun hgone => ?_
    simp only [Pipe.hasReader, Pipe.dropDuplicate, Bool.or_eq_false_iff, decide_eq_false_iff_not] at hgone ⊢
    exact ⟨hgone.1, decide_eq_false (by omega)⟩
  | idle | posted => exact writable

namespace Relay

variable {ω ι δ : Type} {r r' r'' : Relay ω ι δ}

/-! ## What counts as progress -/

/-- What a run has read from an output. -/
def drawn (r : Relay ω ι δ) (c : OutputChannel) : Bytes :=
  r.delivered c ++ r.dropped c ++ r.held c

/-- Bytes behind which at least one more has come. -/
structure Grown (before after : Bytes) : Prop where
  kept : before <+: after
  longer : before.length < after.length

theorem Grown.append {bytes more : Bytes} (some : more ≠ []) : Grown bytes (bytes ++ more) := by
  refine ⟨List.prefix_append _ _, ?_⟩
  rw [List.length_append]
  exact Nat.lt_add_of_pos_right (List.length_pos_iff.mpr some)

/-- Between two states a run has made progress. -/
inductive Progressed (r r' : Relay ω ι δ) : Prop
  /-- It has read bytes of the input. -/
  | read (grown : Grown r.inputRead r'.inputRead)
  /-- The child's input has accepted bytes. -/
  | sent (grown : Grown r.plumbing.accepted r'.plumbing.accepted)
  /-- It has read bytes of an output. -/
  | drew (c : OutputChannel) (grown : Grown (r.drawn c) (r'.drawn c))
  /-- It has closed its end of the child's input. -/
  | closedInput (before : r.plumbing.stdin.writeOpen = true) (after : r'.plumbing.stdin.writeOpen = false)
  /-- It has closed its end of an output. -/
  | closedOutput (c : OutputChannel) (before : (r.plumbing.output c).readOpen = true)
      (after : (r'.plumbing.output c).readOpen = false)
  /-- It has seen the signal, and drains from now on. -/
  | heeded (policy : r.policy = .drainToEof) (before : r.draining = false) (after : r'.draining = true)

/-- The run has ended because its last call, a read of the input, has failed. -/
def ReadFailed (r : Relay ω ι δ) : Prop :=
  ∃ e calls, r.history = .read (.error e) :: calls ∧ r.outcome = some (.error (.dataset e))

/-- None of the progress that was made in the first state is undone in the second. -/
structure Advances (r r' : Relay ω ι δ) : Prop where
  inputRead : r.inputRead <+: r'.inputRead
  accepted : r.plumbing.accepted <+: r'.plumbing.accepted
  drawn : ∀ c, r.drawn c <+: r'.drawn c
  closedInput : r.plumbing.stdin.writeOpen = false → r'.plumbing.stdin.writeOpen = false
  closedOutput : ∀ c, (r.plumbing.output c).readOpen = false → (r'.plumbing.output c).readOpen = false
  draining : r.draining = true → r'.draining = true
  policy : r'.policy = r.policy

theorem Advances.refl (r : Relay ω ι δ) : Advances r r where
  inputRead := List.prefix_rfl
  accepted := List.prefix_rfl
  drawn _ := List.prefix_rfl
  closedInput := id
  closedOutput _ := id
  draining := id
  policy := rfl

theorem Advances.trans (h : Advances r r') (h' : Advances r' r'') : Advances r r'' where
  inputRead := h.inputRead.trans h'.inputRead
  accepted := h.accepted.trans h'.accepted
  drawn c := (h.drawn c).trans (h'.drawn c)
  closedInput := h'.closedInput ∘ h.closedInput
  closedOutput c := h'.closedOutput c ∘ h.closedOutput c
  draining := h'.draining ∘ h.draining
  policy := h'.policy.trans h.policy

theorem Grown.from_prefix {a b c : Bytes} (grown : Grown b c) (h : a <+: b) : Grown a c :=
  ⟨h.trans grown.kept, Nat.lt_of_le_of_lt h.length_le grown.longer⟩

theorem Grown.kept_on {a b c : Bytes} (grown : Grown a b) (h : b <+: c) : Grown a c :=
  ⟨grown.kept.trans h, Nat.lt_of_lt_of_le grown.longer h.length_le⟩

/-- What has advanced before progress is made has made progress. -/
theorem Advances.progressed (h : Advances r r') (made : Progressed r' r'') : Progressed r r'' := by
  cases made with
  | read grown => exact .read (grown.from_prefix h.inputRead)
  | sent grown => exact .sent (grown.from_prefix h.accepted)
  | drew c grown => exact .drew c (grown.from_prefix (h.drawn c))
  | closedInput before after =>
    refine .closedInput (Bool.of_not_eq_false fun hshut => ?_) after
    cases before.symm.trans (h.closedInput hshut)
  | closedOutput c before after =>
    refine .closedOutput c (Bool.of_not_eq_false fun hshut => ?_) after
    cases before.symm.trans (h.closedOutput c hshut)
  | heeded policy before after =>
    refine .heeded (h.policy.symm.trans policy) (Bool.of_not_eq_true fun hdrains => ?_) after
    cases before.symm.trans (h.draining hdrains)

/-- Progress is not undone. -/
theorem Progressed.kept (made : Progressed r r') (h : Advances r' r'') : Progressed r r'' := by
  cases made with
  | read grown => exact .read (grown.kept_on h.inputRead)
  | sent grown => exact .sent (grown.kept_on h.accepted)
  | drew c grown => exact .drew c (grown.kept_on (h.drawn c))
  | closedInput before after => exact .closedInput before (h.closedInput after)
  | closedOutput c before after => exact .closedOutput c before (h.closedOutput c after)
  | heeded policy before after => exact .heeded policy before (h.draining after)

/-- Other parties undo nothing. -/
theorem advances_outside (r : Relay ω ι δ) (action : Plumbing.Action) :
    Advances r { r with plumbing := r.plumbing.perform action } := by
  have heffect := r.plumbing.perform_effect action
  refine { Advances.refl r with
    accepted := ?_, closedInput := fun hshut => heffect.writeOpen_eq.trans hshut, closedOutput := fun c hshut => ?_ }
  · show r.plumbing.accepted <+: (r.plumbing.perform action).accepted
    exact heffect.accepted_eq ▸ List.prefix_rfl
  · obtain ⟨more, hgrows⟩ := heffect.grows c
    exact hgrows.readOpen.trans hshut

/-! ## What was read from an output -/

/-- What was written to an output is what was read from it and what is still queued. -/
theorem OutputInv.wrote_eq (h : OutputInv r) (c : OutputChannel) :
    r.plumbing.wrote c = r.drawn c ++ (r.plumbing.output c).queue.toList :=
  h.conserved c

/-- What a step takes out of an output, it has read from it. -/
theorem OutputInv.drawn_eq (h : OutputInv r) (h' : OutputInv r') {c : OutputChannel} {more : Bytes}
    (wrote : r'.plumbing.wrote c = r.plumbing.wrote c)
    (taken : more ++ (r'.plumbing.output c).queue.toList = (r.plumbing.output c).queue.toList) :
    r'.drawn c = r.drawn c ++ more := by
  have hsame := calc r'.drawn c ++ (r'.plumbing.output c).queue.toList
      = r.plumbing.wrote c := by rw [← h'.wrote_eq, wrote]
    _ = r.drawn c ++ (more ++ (r'.plumbing.output c).queue.toList) := by rw [h.wrote_eq, taken]
    _ = r.drawn c ++ more ++ (r'.plumbing.output c).queue.toList := (List.append_assoc ..).symm
  exact List.append_cancel_right hsame

variable [DatasetStream ω ι] [DatasetStream ω δ]

/-- A step takes bytes off the front of an output at most, and opens no end. -/
theorem Turn.takes (h : Turn r r') (c : OutputChannel) : r'.plumbing.wrote c = r.plumbing.wrote c ∧
    (∃ more, more ++ (r'.plumbing.output c).queue.toList = (r.plumbing.output c).queue.toList) ∧
    ((r.plumbing.output c).readOpen = false → (r'.plumbing.output c).readOpen = false) := by
  have hsame (wrote : r'.plumbing.wrote c = r.plumbing.wrote c)
      (output : r'.plumbing.output c = r.plumbing.output c) : r'.plumbing.wrote c = r.plumbing.wrote c ∧
      (∃ more, more ++ (r'.plumbing.output c).queue.toList = (r.plumbing.output c).queue.toList) ∧
      ((r.plumbing.output c).readOpen = false → (r'.plumbing.output c).readOpen = false) :=
    ⟨wrote, ⟨[], by rw [output, List.nil_append]⟩, fun hshut => by rw [output, hshut]⟩
  cases h with
  | head _ _ head => exact hsame (head.sides.1.wrote c) (head.sides.1.output c)
  | deed _ _ deed =>
    rcases deed.side with ⟨-, same⟩ | ⟨output, -⟩
    · exact hsame (same.wrote c) (same.output c)
    · cases deed with
      | @outputEnded c' pipe read =>
        by_cases hc : c = c'
        · subst hc
          obtain ⟨hopen, hfetch⟩ := Pipe.read_done read
          refine ⟨Plumbing.wrote_setOutput .., ⟨[], ?_⟩, fun hshut => by cases hopen.symm.trans hshut⟩
          rw [Plumbing.output_setOutput]
          exact (Pipe.fetch_done hfetch).2.1
        · exact hsame (Plumbing.wrote_setOutput ..) (Plumbing.output_setOutput_ne hc _)
      | @outputRead c' bytes pipe read =>
        by_cases hc : c = c'
        · subst hc
          obtain ⟨hopen, hfetch⟩ := Pipe.read_done read
          refine ⟨Plumbing.wrote_setOutput .., ⟨bytes, ?_⟩, fun hshut => by cases hopen.symm.trans hshut⟩
          rw [Plumbing.output_setOutput]
          exact (Pipe.fetch_done hfetch).2.1
        · exact hsame (Plumbing.wrote_setOutput ..) (Plumbing.output_setOutput_ne hc _)
      | outputFailed | delivered | deliverFailed => exact hsame rfl rfl
      | sent offers | refused offers | broken offers | sendFailed offers => exact (offers.not_output output).elim
      | _ => cases output

/-- What the child's input has accepted stays accepted. -/
theorem Turn.accepted_grows (h : Turn r r') : r.plumbing.accepted <+: r'.plumbing.accepted := by
  cases h with
  | head _ _ head => exact head.sides.2.accepted ▸ List.prefix_rfl
  | deed _ _ deed =>
    rcases deed.side with ⟨input, -⟩ | ⟨-, same⟩
    · cases deed with
      | unblocked isOpen set =>
        cases Pipe.setNonblocking_ok set
        exact List.prefix_rfl
      | sent offers write =>
        rw [Plumbing.accepted_offer (Pipe.offer_done (Pipe.write_done write).2).2.2]
        exact List.prefix_append _ _
      | alreadyClosed | noInput | readFailed | inputEnded | refilled | refused | broken | sendFailed | inputClosed
        | closeFailed => exact List.prefix_rfl
      | _ => cases input
    · exact same.accepted ▸ List.prefix_rfl

/-- A step undoes nothing. -/
theorem Turn.advances (h : Turn r r') (ho : OutputInv r) : Advances r r' where
  inputRead := by
    unfold Relay.inputRead total
    rcases h.calls with hsame | ⟨call, hnew⟩
    · exact hsame ▸ List.prefix_rfl
    · rw [hnew, List.reverse_cons, List.flatMap_append]
      exact List.prefix_append _ _
  accepted := h.accepted_grows
  drawn c := by
    obtain ⟨hwrote, ⟨more, htaken⟩, -⟩ := h.takes c
    rw [ho.drawn_eq (h.outputInv ho) hwrote htaken]
    exact List.prefix_append _ _
  closedInput := h.keeps_shut
  closedOutput c := (h.takes c).2.2
  draining := h.draining_of_draining
  policy := h.settings.1

/-! ## What a task of a wait does -/

/-- The run goes on with a task that a wait has put on the agenda. -/
structure Serving (r : Relay ω ι δ) : Prop where
  running : r.outcome = none
  next : ∃ task rest, r.agenda = task :: rest ∧ task.serves = true

/-- What is left of a chunk is sent only after a wait has found room for it. -/
def Movable (r : Relay ω ι δ) : Prop :=
  ∀ rest, r.agenda = .serveInput :: rest → r.pending ≠ [] → r.plumbing.stdin.isWritable = true

omit [DatasetStream ω δ] in
theorem movable_of_tasks {rest : List RelayTask} (next : tasks r.ready = .serveInput :: rest)
    (left : r.pending ≠ []) : r.plumbing.stdin.isWritable = true := by
  have hserves : (r.ready.input || r.ready.stdin) = true := by
    rw [← servesInput_tasks, next]
    rfl
  unfold ready watched at hserves
  simp only [List.isEmpty_eq_false_iff.mpr left, Bool.not_false, Bool.true_or, Bool.not_true, Bool.and_false,
    Bool.false_and, Bool.and_true, Bool.false_or, Bool.and_eq_true] at hserves
  exact hserves.2

theorem Turn.movable (h : Turn r r') (orderly : OrderlyAgenda r) : Movable r' := by
  intro rest' next' left
  cases h with
  | head _ idle head =>
    cases head with
    | drained | stopped => cases idle.symm.trans next'
    | woken => exact movable_of_tasks next' left
  | deed _ next deed => exact absurd next' (deed.not_serveInput (orderly.rest next) rest')

/-- What is known about a run when it carries out the tasks of a wait. -/
structure MovingInv (r : Relay ω ι δ) : Prop where
  input : InputInv r
  output : OutputInv r
  ends : EndsInv r
  movable : Movable r

omit [DatasetStream ω ι] [DatasetStream ω δ] in
theorem MovingInv.outside (h : MovingInv r) (action : Plumbing.Action) :
    MovingInv { r with plumbing := r.plumbing.perform action } where
  input := h.input.outside action
  output := h.output.outside action
  ends := h.ends.outside action
  movable rest next left := (r.plumbing.perform_effect action).isWritable (h.movable rest next left)

omit [DatasetStream ω ι] [DatasetStream ω δ] in
theorem MovingInv.elsewhere (h : MovingInv r) (change : ω → ω) :
    MovingInv { r with machine := change r.machine } where
  input := { h.input with }
  output := { h.output with }
  ends := { h.ends with }
  movable := h.movable

theorem Turn.movingInv [LawfulReads ω ι] (h : Turn r r') (hm : MovingInv r) : MovingInv r' where
  input := h.inputInv hm.input
  output := h.outputInv hm.output
  ends := h.endsInv hm.ends
  movable := h.movable hm.input.orderly

/-- **A task that a wait has put on the agenda makes progress**, unless the input cannot be read. -/
theorem Deed.progressed {task : RelayTask} {rest : List RelayTask} (h : Deed r rest task r') (hm : MovingInv r)
    (running : r.outcome = none) (next : r.agenda = task :: rest) (serves : task.serves = true) :
    Progressed r r' ∨ r'.ReadFailed := by
  have hturn : Turn r r' := .deed running next h
  have hopen (input : worksOnInput task = true) : r.plumbing.stdin.writeOpen = true := by
    refine hm.input.serving ?_
    rw [next]
    cases task with
    | serveInput => rfl
    | serveOutput => cases input
    | start | sendChunk | closeInput | deliver => cases serves
  have hleft (offers : r.Offers task) : task = .serveInput ∧ r.pending ≠ [] := by
    rcases offers with rfl | hserve
    · cases serves
    · exact hserve
  cases h with
  | readFailed => exact .inr ⟨_, _, rfl, rfl⟩
  | inputEnded => exact .inl (.closedInput (hopen rfl) rfl)
  | @refilled bytes input machine used read some =>
    have hread : ({ r with input, machine }.noted (.read (.ok bytes))).inputRead = r.inputRead ++ bytes :=
      inputRead_noted ..
    refine .inl (.read ?_)
    show Grown r.inputRead ({ r with input, machine }.noted (.read (.ok bytes))).inputRead
    rw [hread]
    exact .append some
  | @sent _ n stdin offers write =>
    obtain ⟨-, hsome⟩ := hleft offers
    have hoffer := (Pipe.write_done write).2
    obtain ⟨-, hn, -⟩ := Pipe.offer_done_some hsome hoffer
    refine .inl (.sent ?_)
    rw [Plumbing.accepted_offer (Pipe.offer_done hoffer).2.2]
    refine .append fun hnil => ?_
    rcases List.take_eq_nil_iff.mp hnil with hzero | hnil
    · exact absurd hzero (Nat.ne_of_gt hn)
    · exact hsome hnil
  | refused offers write full =>
    -- a full pipe that somebody reads is not writable
    obtain ⟨rfl, hsome⟩ := hleft offers
    obtain ⟨hreader, hroom⟩ := Pipe.write_refused write full
    have hwritable := hm.movable rest next hsome
    unfold Pipe.isWritable at hwritable
    rw [hreader, hroom] at hwritable
    cases hwritable
  | broken offers => exact .inl (.closedInput (hopen offers.worksOnInput) rfl)
  | sendFailed offers write notFull notBroken =>
    rcases hm.input.not_sendFailed offers next write with hbroken | hfull
    · cases notBroken.symm.trans hbroken
    · cases notFull.symm.trans hfull
  | @outputEnded c pipe read =>
    refine .inl (.closedOutput c (Pipe.read_done read).1 ?_)
    show ((r.plumbing.setOutput c (pipe.close .read)).output c).readOpen = false
    rw [Plumbing.output_setOutput]
    rfl
  | @outputRead c bytes pipe read some =>
    have htaken : bytes ++ ((r.plumbing.setOutput c pipe).output c).queue.toList =
        (r.plumbing.output c).queue.toList := by
      rw [Plumbing.output_setOutput]
      exact (Pipe.fetch_done (Pipe.read_done read).2).2.1
    refine .inl (.drew c ?_)
    rw [hm.output.drawn_eq (hturn.outputInv hm.output) (hturn.takes c).1 htaken]
    exact .append some
  | outputFailed read => exact absurd read (hm.ends.not_outputFailed next)
  | _ => cases serves

omit [DatasetStream ω ι] [DatasetStream ω δ] in
theorem serves_tasks {ready : Readiness} (some : ready.anyDescriptor = true) :
    ∃ task rest, tasks ready = task :: rest ∧ task.serves = true := by
  unfold Readiness.anyDescriptor at some
  unfold tasks
  split
  next => exact ⟨_, _, rfl, rfl⟩
  next hinput =>
    split
    next => exact ⟨_, _, rfl, rfl⟩
    next hstdout =>
      rw [Bool.not_eq_true] at hinput hstdout
      rw [hinput, hstdout] at some
      rw [if_pos (by simpa using some)]
      exact ⟨_, _, rfl, rfl⟩

omit [DatasetStream ω δ] in
/-- **A wait that does not end the run puts a task on the agenda**, or it is the first one to report the signal to
a run that drains. -/
theorem LoopHead.serving (h : LoopHead r r') (running : r.outcome = none) (going : r'.outcome = none) :
    Progressed r r' ∨ r'.Serving := by
  cases h with
  | drained | stopped => cases going
  | woken _ some goesOn =>
    cases hany : r.ready.anyDescriptor with
    | true => exact .inr ⟨running, serves_tasks hany⟩
    | false =>
      have hfired : r.ready.shutdown = true := by
        unfold Readiness.any at some
        rwa [hany, Bool.false_or] at some
      have hpolicy : r.policy = .drainToEof := by
        cases hpolicy : r.policy with
        | drainToEof => rfl
        | signalOnly => cases hany.symm.trans (goesOn hpolicy hfired)
      -- the signal is not watched while the run drains
      have hwatched : r.watchesShutdown = true := (Bool.and_eq_true_iff.mp hfired).1
      unfold watchesShutdown at hwatched
      rw [hpolicy] at hwatched
      refine .inl (.heeded hpolicy (by simpa using hwatched) ?_)
      show (r.draining || (r.policy == .drainToEof && r.ready.shutdown)) = true
      rw [hpolicy, hfired]
      exact Bool.or_true _

/-! ## After a wait -/

/-- Since a moment the run has made progress, or it has failed with the input, or it is about to make progress. -/
inductive Attends (before r : Relay ω ι δ) : Prop
  | progressed (made : Progressed before r)
  | readFailed (failed : r.ReadFailed)
  | serving (kept : Advances before r) (serving : r.Serving)

theorem Turn.attends {before : Relay ω ι δ} (h : Turn r r') (hm : MovingInv r) (ha : Attends before r) :
    Attends before r' := by
  cases ha with
  | progressed made => exact .progressed (made.kept (h.advances hm.output))
  | readFailed failed =>
    obtain ⟨e, calls, -, hover⟩ := failed
    cases h with
    | head running | deed running => cases running.symm.trans hover
  | serving kept serving =>
    obtain ⟨task, rest, hnext, hserves⟩ := serving.next
    cases h with
    | head _ idle => cases idle.symm.trans hnext
    | deed running next deed =>
      cases hnext.symm.trans next
      rcases deed.progressed hm running next hserves with hmade | hfailed
      · exact .progressed (kept.progressed hmade)
      · exact .readFailed hfailed

omit [DatasetStream ω ι] [DatasetStream ω δ] in
/-- What undoes nothing and leaves the run where it is. -/
theorem Attends.frame {before : Relay ω ι δ} (h : Attends before r) (kept : Advances r r')
    (agenda : r'.agenda = r.agenda) (outcome : r'.outcome = r.outcome) (history : r'.history = r.history) :
    Attends before r' := by
  cases h with
  | progressed made => exact .progressed (made.kept kept)
  | readFailed failed =>
    obtain ⟨e, calls, hcalls, hover⟩ := failed
    exact .readFailed ⟨e, calls, history.trans hcalls, outcome.trans hover⟩
  | serving before serving => exact .serving (before.trans kept) ⟨outcome.trans serving.running, agenda ▸ serving.next⟩

/-- Whatever follows a wait, its task is carried out before the next one. -/
theorem attends_run [LawfulReads ω ι] {before : Relay ω ι δ} (hm : MovingInv r) (ha : Attends before r)
    (schedule : List (Event ω)) : Attends before (r.run schedule) := by
  let P (r : Relay ω ι δ) : Prop := MovingInv r ∧ Attends before r
  have hrun : P (r.run schedule) := by
    refine run_induction (P := P) (fun r action h => ⟨h.1.outside action, ?_⟩)
      (fun r change h => ⟨h.1.elsewhere change, ?_⟩) (fun r r' h turn => ⟨turn.movingInv h.1, turn.attends h.1 h.2⟩)
      schedule r ⟨hm, ha⟩
    · exact h.2.frame (advances_outside r action) rfl rfl rfl
    · exact h.2.frame { Advances.refl r with } rfl rfl rfl
  exact hrun.2

/-! ## Every wait is paid for -/

/-- How much a run has done that counts as progress. -/
def earned (r : Relay ω ι δ) : Nat :=
  r.inputRead.length + r.plumbing.accepted.length + (r.drawn .stdout).length + (r.drawn .stderr).length +
    (!r.plumbing.stdin.writeOpen).toNat + (!r.plumbing.stdout.readOpen).toNat + (!r.plumbing.stderr.readOpen).toNat +
    r.draining.toNat

/-- What is still owed for the last wait: one step of progress while a task of it is about to be carried out, and
the wait itself when it was the last one. -/
def owed (r : Relay ω ι δ) : Nat :=
  match r.outcome, r.agenda with
  | some _, _ => 1
  | none, task :: _ => task.serves.toNat
  | none, [] => 0

omit [DatasetStream ω ι] [DatasetStream ω δ] in
theorem owed_le (r : Relay ω ι δ) : r.owed ≤ 1 := by
  unfold owed
  split
  next => exact Nat.le_refl 1
  next => exact Bool.toNat_le _
  next => exact Nat.zero_le 1

omit [DatasetStream ω ι] [DatasetStream ω δ] in
theorem Serving.owed_eq (h : r.Serving) : r.owed = 1 := by
  obtain ⟨task, rest, next, serves⟩ := h.next
  unfold owed
  rw [h.running, next]
  exact congrArg Bool.toNat serves

omit [DatasetStream ω ι] [DatasetStream ω δ] in
theorem owed_of_outcome {result : Except RelayError Unit} (h : r.outcome = some result) : r.owed = 1 := by
  unfold owed
  rw [h]

omit [DatasetStream ω ι] [DatasetStream ω δ] in
/-- No part of what was earned gets less. -/
theorem Advances.parts (h : Advances r r') :
    r.inputRead.length ≤ r'.inputRead.length ∧ r.plumbing.accepted.length ≤ r'.plumbing.accepted.length ∧
    (r.drawn .stdout).length ≤ (r'.drawn .stdout).length ∧ (r.drawn .stderr).length ≤ (r'.drawn .stderr).length ∧
    (!r.plumbing.stdin.writeOpen).toNat ≤ (!r'.plumbing.stdin.writeOpen).toNat ∧
    (!r.plumbing.stdout.readOpen).toNat ≤ (!r'.plumbing.stdout.readOpen).toNat ∧
    (!r.plumbing.stderr.readOpen).toNat ≤ (!r'.plumbing.stderr.readOpen).toNat ∧
    r.draining.toNat ≤ r'.draining.toNat := by
  have hshut {a b : Bool} (himp : a = false → b = false) : (!a).toNat ≤ (!b).toNat :=
    Bool.toNat_le_toNat (Bool.le_iff_imp.mpr (by simpa using himp))
  exact ⟨h.inputRead.length_le, h.accepted.length_le, (h.drawn .stdout).length_le, (h.drawn .stderr).length_le,
    hshut h.closedInput, hshut (h.closedOutput .stdout), hshut (h.closedOutput .stderr),
    Bool.toNat_le_toNat (Bool.le_iff_imp.mpr h.draining)⟩

omit [DatasetStream ω ι] [DatasetStream ω δ] in
theorem Advances.earned_le (h : Advances r r') : r.earned ≤ r'.earned := by
  obtain ⟨hread, haccepted, hdrawnOut, hdrawnErr, hinput, hstdout, hstderr, hdraining⟩ := h.parts
  unfold earned
  omega

omit [DatasetStream ω ι] [DatasetStream ω δ] in
/-- Progress earns something. -/
theorem Progressed.earned_lt (made : Progressed r r') (h : Advances r r') : r.earned < r'.earned := by
  obtain ⟨hread, haccepted, hdrawnOut, hdrawnErr, hinput, hstdout, hstderr, hdraining⟩ := h.parts
  have hcloses {a b : Bool} (before : a = true) (after : b = false) : (!a).toNat < (!b).toNat := by
    rw [before, after]
    exact Nat.zero_lt_one
  unfold earned
  cases made with
  | read grown | sent grown =>
    have hlonger := grown.longer
    omega
  | drew c grown =>
    have hlonger := grown.longer
    cases c <;> omega
  | closedInput before after =>
    have hclosed := hcloses before after
    omega
  | closedOutput c before after =>
    have hclosed := hcloses before after
    cases c <;> simp only [Plumbing.output] at hclosed <;> omega
  | heeded _ before after =>
    have hheeded : r.draining.toNat < r'.draining.toNat := by
      rw [before, after]
      exact Nat.zero_lt_one
    omega

/-- Every wait so far has earned something, except for the last one at most. -/
def Paid (r : Relay ω ι δ) : Prop :=
  r.stats.iterations ≤ r.earned + r.owed

theorem Turn.paid (h : Turn r r') (hm : MovingInv r) (hp : Paid r) : Paid r' := by
  have hadvances := h.advances hm.output
  have hearned := hadvances.earned_le
  have howed := r.owed_le
  unfold Paid at hp ⊢
  cases h with
  | head running idle head =>
    have hidle : r.owed = 0 := by
      unfold owed
      rw [running, idle]
    have hcounted : r'.stats.iterations ≤ r.stats.iterations + 1 := by
      cases head with
      | drained => exact Nat.le_succ _
      | stopped | woken => exact Nat.le_refl _
    cases hover : r'.outcome with
    | some result =>
      have hlast := owed_of_outcome hover
      omega
    | none =>
      rcases head.serving running hover with hmade | hserving
      · have hmore := hmade.earned_lt hadvances
        omega
      · have hone := hserving.owed_eq
        omega
  | @deed task rest running next deed =>
    have hcounted := deed.iterations
    cases hserves : task.serves with
    | false =>
      have hnone : r.owed = 0 := by
        unfold owed
        rw [running, next]
        exact congrArg Bool.toNat hserves
      omega
    | true =>
      rcases deed.progressed hm running next hserves with hmade | ⟨e, calls, -, hover⟩
      · have hmore := hmade.earned_lt hadvances
        omega
      · have hlast := owed_of_outcome hover
        omega

/-! ## Runs -/

omit [DatasetStream ω ι] [DatasetStream ω δ] in
theorem movingInv_create {p : Plumbing} (hp : p.Unrelayed) (machine : ω) (input : ι) (outputs : OutputRoutes δ)
    (policy : StopPolicy) (bufferSize : Nat) : MovingInv (create p machine input outputs policy bufferSize) where
  input := inputInv_create hp.untaken machine input outputs policy bufferSize
  output := outputInv_create hp.queued machine input outputs policy bufferSize
  ends := endsInv_create hp.shut machine input outputs policy bufferSize
  movable := nofun

/-- At every point of every run the waits so far are paid for. -/
theorem moving_paid_run [LawfulReads ω ι] {p : Plumbing} (hp : p.Unrelayed) (machine : ω) (input : ι)
    (outputs : OutputRoutes δ) (policy : StopPolicy) (bufferSize : Nat) (schedule : List (Event ω)) :
    MovingInv ((create p machine input outputs policy bufferSize).run schedule) ∧
      Paid ((create p machine input outputs policy bufferSize).run schedule) := by
  refine run_induction (P := fun r => MovingInv r ∧ Paid r) (fun r action h => ⟨h.1.outside action, ?_⟩)
    (fun r change h => ⟨h.1.elsewhere change, h.2⟩) (fun r r' h turn => ⟨turn.movingInv h.1, turn.paid h.1 h.2⟩)
    schedule _ ⟨movingInv_create hp machine input outputs policy bufferSize, Nat.zero_le _⟩
  exact Nat.le_trans h.2 (Nat.add_le_add_right (advances_outside r action).earned_le _)

omit [DatasetStream ω ι] [DatasetStream ω δ] in
theorem Paid.iterations_le (h : Paid r) : r.stats.iterations ≤ r.inputRead.length + r.plumbing.accepted.length +
    (r.drawn .stdout).length + (r.drawn .stderr).length + 5 := by
  have howed := r.owed_le
  have hstdin := Bool.toNat_le (!r.plumbing.stdin.writeOpen)
  have hstdout := Bool.toNat_le (!r.plumbing.stdout.readOpen)
  have hstderr := Bool.toNat_le (!r.plumbing.stderr.readOpen)
  have hdraining := Bool.toNat_le r.draining
  unfold Paid earned at h
  omega

/-! ## The main statement -/

/-- **Every completed wait that does not end the run has led to progress before the next one**, unless the run has
ended in between because the input could not be read: by the end of the iteration, which is when nothing is left
to do for the wait, bytes of the input or of an output were read, the child's input has accepted some, an end of a
pipe was closed, or the signal was seen for the first time by a run that drains. So at every point of every run the
waits so far are no more than the bytes that were read from the input, accepted by the child's input and read from
the outputs, and five: one for each of the three ends, one for the signal and one that ends the run. -/
theorem waits_progress [LawfulReads ω ι] {p : Plumbing} (hp : p.Unrelayed) (machine : ω) (input : ι)
    (outputs : OutputRoutes δ) (policy : StopPolicy) (bufferSize : Nat) (schedule : List (Event ω)) :
    let r := (create p machine input outputs policy bufferSize).run schedule
    (∀ r' later, r.Waits → r.turn? = some r' → r'.outcome = none → (r'.run later).agenda = [] →
      Progressed r (r'.run later) ∨ (r'.run later).ReadFailed) ∧
    (∀ c, r.plumbing.wrote c = r.drawn c ++ (r.plumbing.output c).queue.toList) ∧
    r.stats.iterations ≤ r.inputRead.length + r.plumbing.accepted.length + (r.drawn .stdout).length +
      (r.drawn .stderr).length + 5 := by
  intro r
  obtain ⟨hm, hpaid⟩ : MovingInv r ∧ Paid r := moving_paid_run hp machine input outputs policy bufferSize schedule
  refine ⟨fun r' later waits hturn going idle => ?_, hm.output.wrote_eq, hpaid.iterations_le⟩
  have hstep := turn_of_turn? hturn
  have hkept := hstep.advances hm.output
  have hmoving := hstep.movingInv hm
  have hattends : Attends r r' := by
    cases hstep with
    | head running _ head =>
      rcases head.serving running going with hmade | hserving
      · exact .progressed hmade
      · exact .serving hkept hserving
    | deed _ next => cases waits.idle.symm.trans next
  cases attends_run hmoving hattends later with
  | progressed made => exact .inl made
  | readFailed failed => exact .inr failed
  | serving _ serving =>
    obtain ⟨task, rest, next, -⟩ := serving.next
    cases idle.symm.trans next

/-- After the first step the relay waits; the wait finds room in the child's input, and the iteration reads two bytes
and sends them. -/
theorem waits_progress_fiveBytes :
    Plumbing.fresh.Unrelayed ∧ (fiveBytes.run [.turn]).Waits ∧
      Progressed (fiveBytes.run [.turn]) (fiveBytes.run (List.replicate 4 .turn)) ∧
      (fiveBytes.run fiveBytesSchedule).stats.iterations ≤
        (fiveBytes.run fiveBytesSchedule).inputRead.length +
          (fiveBytes.run fiveBytesSchedule).plumbing.accepted.length + 5 := by
  have hfresh := Plumbing.unrelayed_fresh
  have hwaits : (fiveBytes.run [.turn]).Waits := ⟨rfl, rfl, rfl⟩
  have hstatement := waits_progress hfresh () fiveBytes.input fiveBytes.outputs .drainToEof 2
  refine ⟨hfresh, hwaits, ?_, (hstatement fiveBytesSchedule).2.2⟩
  rcases (hstatement [.turn]).1 (fiveBytes.run [.turn, .turn]) [.turn, .turn] hwaits rfl rfl rfl with
    hmade | ⟨_, _, hread, -⟩
  · exact hmade
  · cases hread

end Relay

end BatchJob
