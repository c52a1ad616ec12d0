import BatchJob.Proofs.Relay.Sides
import BatchJob.Rehearsal.MemoryDataset

/-!
# Conservation of output

No byte that the child writes is lost, repeated, reordered or moved to the other channel on its way to the
sink. `OutputInv` keeps the books of both channels: what was written to a pipe is what the channel's sink
has taken, then the chunk with which the run has failed, then the chunk that is held between the pipe and
the sink, then what is still queued. An action of another party adds at the back of the queue, a read moves
from the front of the queue to the held chunk, and a write moves the held chunk to one of the first two
places; nothing else touches an output.

Main statement: `output_conserved`, for every schedule of other parties' actions.
-/

namespace BatchJob.Relay

variable {ω ι δ : Type} {r r' : Relay ω ι δ}

/-! ## Chunks on their way -/

/-- No chunk of output is about to be written. -/
def HoldsNothing (agenda : List RelayTask) : Prop :=
  ∀ c chunk rest, agenda ≠ .deliver c chunk :: rest

theorem HoldsNothing.heldBy {agenda : List RelayTask} (h : HoldsNothing agenda) (c : OutputChannel) :
    heldBy c agenda = [] := by
  unfold Relay.heldBy
  split
  next channel chunk rest => exact absurd rfl (h channel chunk rest)
  next => rfl

theorem holdsNothing_of_sublist {agenda : List RelayTask} (h : agenda.Sublist outputTasks) :
    HoldsNothing agenda := by
  rintro c chunk rest rfl
  have hmem := h.subset List.mem_cons_self
  simp [outputTasks] at hmem

theorem holdsNothing_tasks (ready : Readiness) : HoldsNothing (tasks ready) := by
  intro c chunk rest
  unfold tasks
  split <;> split <;> split <;> simp

/-- A dropped chunk is the one of a failed write that ended the history. -/
theorem dropped_cases (r : Relay ω ι δ) (c : OutputChannel) : r.dropped c = [] ∨
    ∃ place chunk e calls, r.history = .write c place chunk (.error e) :: calls ∧ r.dropped c = chunk := by
  unfold dropped
  cases hhist : r.history with
  | nil => exact .inl rfl
  | cons call calls =>
    cases call with
    | read | close => exact .inl rfl
    | write channel place chunk result =>
      cases result with
      | ok => exact .inl rfl
      | error e =>
        by_cases hc : channel = c
        · subst hc
          exact .inr ⟨place, chunk, e, calls, rfl, by simp [RelayCall.lost]⟩
        · exact .inl (by simp [RelayCall.lost, hc])

theorem SameOutputs.not_written (h : SameOutputs r r') {c : OutputChannel} {place : Destination} {chunk : Bytes}
    {result : Except DatasetError Unit} : r'.history ≠ .write c place chunk result :: r.history := by
  intro hhist
  rcases h.calls with hsame | ⟨call, hcall, hnew⟩
  · exact List.cons_ne_self _ _ (hhist.symm.trans hsame)
  · rw [hnew] at hhist
    cases hhist
    cases hcall

/-! ## The invariant -/

/-- The books of the outputs. -/
structure OutputInv (r : Relay ω ι δ) : Prop where
  orderly : OrderlyAgenda r
  roomy : 1 ≤ r.bufferSize
  conserved : ∀ c, r.plumbing.wrote c =
    r.delivered c ++ r.dropped c ++ r.held c ++ (r.plumbing.output c).queue.toList
  offered : ∀ c, r.offered c = r.delivered c ++ r.dropped c
  counted : ∀ c : OutputChannel,
    r.stats.counter c.toChannel = min (r.delivered c).length RelayStats.limit
  chunk : ∀ c chunk rest, r.agenda = .deliver c chunk :: rest →
    chunk ≠ [] ∧ chunk.length ≤ r.bufferSize
  failed : ∀ c place chunk e calls, r.history = .write c place chunk (.error e) :: calls →
    r.outcome = some (.error (.dataset e)) ∧ r.agenda = [] ∧ chunk ≠ [] ∧ chunk.length ≤ r.bufferSize

theorem OutputInv.no_failed_write (h : OutputInv r) (running : r.outcome = none) {c : OutputChannel}
    {place : Destination} {chunk : Bytes} {e : DatasetError} {calls : List RelayCall} :
    r.history ≠ .write c place chunk (.error e) :: calls := by
  intro hhist
  rw [(h.failed c place chunk e calls hhist).1] at running
  cases running

/-- A run that goes on or has ended well has dropped nothing. -/
theorem OutputInv.nothing_dropped (h : OutputInv r) (good : r.outcome = none ∨ r.outcome = some (.ok ()))
    (c : OutputChannel) : r.dropped c = [] := by
  rcases dropped_cases r c with hnil | ⟨place, chunk, e, calls, hhist, -⟩
  · exact hnil
  · rcases good with hgood | hgood <;> cases hgood.symm.trans (h.failed c place chunk e calls hhist).1

/-- A failed write ends the run; its chunk is the only one that is missing. -/
theorem OutputInv.failed_write (h : OutputInv r) {c : OutputChannel} {place : Destination} {chunk : Bytes}
    {e : DatasetError} {calls : List RelayCall} (hhist : r.history = .write c place chunk (.error e) :: calls) :
    r.outcome = some (.error (.dataset e)) ∧ chunk ≠ [] ∧ chunk.length ≤ r.bufferSize ∧
      ∀ c', r.dropped c' = (if c = c' then chunk else []) ∧ r.held c' = [] := by
  obtain ⟨houtcome, hagenda, hsome, hlen⟩ := h.failed c place chunk e calls hhist
  refine ⟨houtcome, hsome, hlen, fun c' => ⟨?_, ?_⟩⟩
  · unfold dropped
    rw [hhist]
    rfl
  · unfold held
    rw [hagenda]
    rfl

/-- The books agree before the first step. -/
theorem outputInv_create {p : Plumbing} (queued : ∀ c, p.wrote c = (p.output c).queue.toList) (machine : ω)
    (input : ι) (outputs : OutputRoutes δ) (policy : StopPolicy) (bufferSize : Nat) :
    OutputInv (create p machine input outputs policy bufferSize) where
  orderly := List.nil_sublist _
  roomy := Nat.le_max_right _ _
  conserved := queued
  offered _ := rfl
  counted c := by cases c <;> rfl
  chunk := nofun
  failed := nofun

/-- An action of another party keeps the books. -/
theorem OutputInv.outside (h : OutputInv r) (action : Plumbing.Action) :
    OutputInv { r with plumbing := r.plumbing.perform action } := by
  refine ⟨h.orderly, h.roomy, fun c => ?_, h.offered, h.counted, h.chunk, h.failed⟩
  obtain ⟨more, hg⟩ := (r.plumbing.perform_effect action).grows c
  calc (r.plumbing.perform action).wrote c
      = r.plumbing.wrote c ++ more := hg.wrote
    _ = r.delivered c ++ r.dropped c ++ r.held c ++ ((r.plumbing.output c).queue.toList ++ more) := by
        rw [h.conserved, List.append_assoc]
    _ = _ := by rw [← hg.queue]; rfl

/-- A step that leaves the outputs alone keeps their books. -/
theorem OutputInv.frame (h : OutputInv r) (running : r.outcome = none) (idle : HoldsNothing r.agenda)
    (same : SameOutputs r r') (orderly : OrderlyAgenda r') (idle' : HoldsNothing r'.agenda) :
    OutputInv r' := by
  -- a failed write in the history would have ended the run before
  have hfailed : ∀ c place chunk e calls, r'.history ≠ .write c place chunk (.error e) :: calls := by
    intro c place chunk e calls hhist
    rcases same.calls with hsame | ⟨call, hcall, hnew⟩
    · exact h.no_failed_write running (hsame ▸ hhist)
    · rw [hnew] at hhist
      cases hhist
      cases hcall
  have hdropped (c : OutputChannel) : r'.dropped c = [] := by
    rcases dropped_cases r' c with hnil | ⟨place, chunk, e, calls, hhist, -⟩
    · exact hnil
    · exact absurd hhist (hfailed c place chunk e calls)
  refine ⟨orderly, same.bufferSize ▸ h.roomy, fun c => ?_, fun c => ?_, fun c => ?_, fun c chunk rest hnext => ?_,
    fun c place chunk e calls hhist => absurd hhist (hfailed c place chunk e calls)⟩
  · rw [same.wrote, same.output, same.delivered, hdropped, h.conserved, h.nothing_dropped (.inl running)]
    unfold held
    rw [idle.heldBy, idle'.heldBy]
  · rw [same.offered, same.delivered, hdropped, h.offered, h.nothing_dropped (.inl running)]
  · rw [same.counter, same.delivered, h.counted]
  · exact absurd hnext (idle' c chunk rest)

/-! ## The steps on an output -/

section Output

variable {rest : List RelayTask} {c : OutputChannel}

/-- A read from a pipe moves bytes from its queue to the held chunk. -/
theorem OutputInv.outputRead {bytes : Bytes} {pipe : Pipe} (h : OutputInv r) (running : r.outcome = none)
    (next : r.agenda = .serveOutput c :: rest)
    (read : (r.plumbing.output c).read r.bufferSize = (.done bytes, pipe)) (some : bytes ≠ []) :
    OutputInv { r with
      plumbing := r.plumbing.setOutput c pipe, agenda := .deliver c bytes :: rest } := by
  obtain ⟨-, hqueue, hlen⟩ := Pipe.fetch_done (Pipe.read_done read).2
  -- the relay holds one chunk at most, and none when it reads the next one
  have hidle (c' : OutputChannel) : r.held c' = [] := by
    unfold held
    rw [next]
    rfl
  refine ⟨h.orderly.rest next, h.roomy, fun c' => ?_, h.offered, h.counted, ?_,
    fun _ _ _ _ _ hhist => absurd hhist (h.no_failed_write running)⟩
  · show (r.plumbing.setOutput c pipe).wrote c' = r.delivered c' ++ r.dropped c' ++
      heldBy c' (.deliver c bytes :: rest) ++ ((r.plumbing.setOutput c pipe).output c').queue.toList
    rw [Plumbing.wrote_setOutput, h.conserved, hidle]
    by_cases hc : c' = c
    · subst hc
      rw [Plumbing.output_setOutput, ← hqueue]
      simp [heldBy]
    · rw [Plumbing.output_setOutput_ne hc]
      simp [heldBy, Ne.symm hc]
  · intro c' chunk rest' hnext
    cases hnext
    exact ⟨some, hlen⟩

/-- A pipe that is at its end is closed without a byte moving. -/
theorem OutputInv.outputEnded {pipe : Pipe} (h : OutputInv r) (running : r.outcome = none)
    (next : r.agenda = .serveOutput c :: rest)
    (read : (r.plumbing.output c).read r.bufferSize = (.done [], pipe)) :
    OutputInv { r with plumbing := r.plumbing.setOutput c (pipe.close .read), agenda := rest } := by
  obtain ⟨-, hqueue, -⟩ := Pipe.fetch_done (Pipe.read_done read).2
  have hrest : rest.Sublist outputTasks := h.orderly.rest next
  have hidle (c' : OutputChannel) : heldBy c' rest = r.held c' := by
    unfold held
    rw [next, (holdsNothing_of_sublist hrest).heldBy]
    rfl
  refine ⟨(List.tail_sublist rest).trans hrest, h.roomy, fun c' => ?_, h.offered, h.counted,
    fun c' chunk rest' hnext => absurd hnext (holdsNothing_of_sublist hrest c' chunk rest'),
    fun _ _ _ _ _ hhist => absurd hhist (h.no_failed_write running)⟩
  show (r.plumbing.setOutput c (pipe.close .read)).wrote c' = r.delivered c' ++ r.dropped c' ++
    heldBy c' rest ++ ((r.plumbing.setOutput c (pipe.close .read)).output c').queue.toList
  rw [Plumbing.wrote_setOutput, h.conserved, hidle]
  by_cases hc : c' = c
  · subst hc
    rw [Plumbing.output_setOutput, ← hqueue]
    rfl
  · rw [Plumbing.output_setOutput_ne hc]

/-- A run that fails at an output moves no byte of it. -/
theorem OutputInv.outputFailed {e : PipeError} (h : OutputInv r) (running : r.outcome = none)
    (next : r.agenda = .serveOutput c :: rest) : OutputInv (r.fail (.pipe e)) := by
  refine ⟨List.nil_sublist _, h.roomy, fun c' => ?_, h.offered, h.counted, nofun,
    fun _ _ _ _ _ hhist => absurd hhist (h.no_failed_write running)⟩
  have hidle : r.held c' = [] := by
    unfold held
    rw [next]
    rfl
  have hconserved := h.conserved c'
  rw [hidle] at hconserved
  exact hconserved

/-- The chunk that is about to be delivered is the one that is held, and the other channel holds none. -/
theorem held_of_deliver {chunk : Bytes} (next : r.agenda = .deliver c chunk :: rest) (c' : OutputChannel) :
    r.held c' = if c = c' then chunk else [] := by
  unfold held
  rw [next]
  rfl

/-- A write that succeeds moves the held chunk to what was delivered. -/
theorem OutputInv.delivered_held {chunk : Bytes} {place : Destination} {outputs : OutputRoutes δ} {machine : ω}
    (h : OutputInv r) (running : r.outcome = none) (next : r.agenda = .deliver c chunk :: rest) :
    OutputInv
      { { r with outputs, machine }.noted (.write c place chunk (.ok ())) with
        stats := r.stats.add c.toChannel chunk.length, agenda := rest } := by
  have hrest : rest.Sublist outputTasks := h.orderly.rest next
  have hdelivered (c' : OutputChannel) :
      ({ r with outputs, machine }.noted (.write c place chunk (.ok ()))).delivered c' =
        r.delivered c' ++ if c = c' then chunk else [] :=
    total_noted ..
  have hoffered (c' : OutputChannel) :
      ({ r with outputs, machine }.noted (.write c place chunk (.ok ()))).offered c' =
        r.offered c' ++ if c = c' then chunk else [] :=
    total_noted ..
  refine ⟨(List.tail_sublist rest).trans hrest, h.roomy, fun c' => ?_, fun c' => ?_, fun c' => ?_,
    fun c' chunk rest' hnext => absurd hnext (holdsNothing_of_sublist hrest c' chunk rest'),
    fun c' place' chunk' e calls hhist => ?_⟩
  · show r.plumbing.wrote c' =
      ({ r with outputs, machine }.noted (.write c place chunk (.ok ()))).delivered c' ++ [] ++
        heldBy c' rest ++ (r.plumbing.output c').queue.toList
    rw [hdelivered, (holdsNothing_of_sublist hrest).heldBy, h.conserved, h.nothing_dropped (.inl running),
      held_of_deliver next]
    simp
  · show _ = ({ r with outputs, machine }.noted (.write c place chunk (.ok ()))).delivered c' ++ []
    rw [hdelivered, List.append_nil]
    show ({ r with outputs, machine }.noted (.write c place chunk (.ok ()))).offered c' = _
    rw [hoffered, h.offered, h.nothing_dropped (.inl running), List.append_nil]
  · show (r.stats.add c.toChannel chunk.length).counter c'.toChannel =
      min (({ r with outputs, machine }.noted (.write c place chunk (.ok ()))).delivered c').length _
    rw [hdelivered]
    by_cases hc : c' = c
    · subst hc
      rw [RelayStats.counter_add, h.counted, RelayStats.raise_min, if_pos rfl, List.length_append]
    · rw [RelayStats.counter_add_ne (OutputChannel.toChannel_ne hc), h.counted, if_neg (Ne.symm hc),
        List.append_nil]
  · -- the last call is a write that has succeeded
    cases hhist

/-- A write that fails drops the held chunk and ends the run. -/
theorem OutputInv.dropped_held {chunk : Bytes} {place : Destination} {e : DatasetError}
    {outputs : OutputRoutes δ} {machine : ω} (h : OutputInv r) (running : r.outcome = none)
    (next : r.agenda = .deliver c chunk :: rest) :
    OutputInv (({ r with outputs, machine }.noted (.write c place chunk (.error e))).fail (.dataset e)) := by
  have hdelivered (c' : OutputChannel) :
      ({ r with outputs, machine }.noted (.write c place chunk (.error e))).delivered c' = r.delivered c' := by
    rw [← List.append_nil (r.delivered c')]
    exact total_noted ..
  have hoffered (c' : OutputChannel) :
      ({ r with outputs, machine }.noted (.write c place chunk (.error e))).offered c' =
        r.offered c' ++ if c = c' then chunk else [] :=
    total_noted ..
  refine ⟨List.nil_sublist _, h.roomy, fun c' => ?_, fun c' => ?_, fun c' => ?_,
    nofun, fun c' place' chunk' e' calls hhist => ?_⟩
  · show r.plumbing.wrote c' =
      ({ r with outputs, machine }.noted (.write c place chunk (.error e))).delivered c' ++
        (if c = c' then chunk else []) ++ [] ++ (r.plumbing.output c').queue.toList
    rw [hdelivered, h.conserved, h.nothing_dropped (.inl running), held_of_deliver next]
    simp
  · show ({ r with outputs, machine }.noted (.write c place chunk (.error e))).offered c' =
      ({ r with outputs, machine }.noted (.write c place chunk (.error e))).delivered c' ++
        if c = c' then chunk else []
    rw [hoffered, hdelivered, h.offered, h.nothing_dropped (.inl running), List.append_nil]
  · show r.stats.counter c'.toChannel =
      min (({ r with outputs, machine }.noted (.write c place chunk (.error e))).delivered c').length _
    rw [hdelivered, h.counted]
  · cases hhist
    exact ⟨rfl, rfl, h.chunk c chunk rest next⟩

end Output

/-! ## Every step keeps the books -/

variable [DatasetStream ω ι] [DatasetStream ω δ]

theorem holdsNothing_of_input {task : RelayTask} {rest : List RelayTask} (h : worksOnInput task = true) :
    HoldsNothing (task :: rest) := by
  rintro c chunk rest' ⟨⟩
  cases h

/-- An input step leaves no chunk of output on its way. -/
theorem Deed.holdsNothing {task : RelayTask} {rest : List RelayTask} (h : Deed r rest task r')
    (input : worksOnInput task = true) (hrest : rest.Sublist outputTasks) : HoldsNothing r'.agenda := by
  rcases h.agenda with ⟨hnil, -⟩ | ⟨-, hrest' | hsend | hclose | ⟨c, chunk, htask, -⟩⟩
  · rw [hnil]
    exact nofun
  · rw [hrest']
    exact holdsNothing_of_sublist hrest
  · rw [hsend]
    exact nofun
  · rw [hclose]
    exact nofun
  · rw [htask] at input
    cases input

theorem Turn.outputInv (h : Turn r r') (hi : OutputInv r) : OutputInv r' := by
  have horderly := h.orderly hi.orderly
  cases h with
  | head running idle head =>
    refine hi.frame running (by rw [idle]; exact nofun) head.sides.1 horderly ?_
    cases head with
    | drained => rw [idle]; exact nofun
    | stopped => rw [idle]; exact nofun
    | woken => exact holdsNothing_tasks _
  | deed running next deed =>
    rcases deed.side with ⟨input, same⟩ | ⟨output, -⟩
    · exact hi.frame running (next ▸ holdsNothing_of_input input) same horderly
        (deed.holdsNothing input (hi.orderly.rest next))
    · cases deed with
      | outputEnded read => exact hi.outputEnded running next read
      | outputRead read some => exact hi.outputRead running next read some
      | outputFailed => exact hi.outputFailed running next
      | delivered => exact hi.delivered_held running next
      | deliverFailed => exact hi.dropped_held running next
      | sent offers | refused offers | broken offers | sendFailed offers => exact (offers.not_output output).elim
      | _ => cases output

/-! ## What a write is passed -/

/-- A write passes the held chunk of its channel to where the channel goes at that moment. -/
theorem Turn.written (h : Turn r r') {c : OutputChannel} {place : Destination} {chunk : Bytes}
    {result : Except DatasetError Unit} (hhist : r'.history = .write c place chunk result :: r.history) :
    (∃ rest, r.agenda = .deliver c chunk :: rest) ∧ place = r.outputs.sink ω c.toChannel ∧
      result = (r.outputs.writeTo place chunk r.machine).1 := by
  cases h with
  | head _ _ head => exact absurd hhist head.sides.1.not_written
  | deed _ next deed =>
    rcases deed.side with ⟨-, same⟩ | ⟨output, -⟩
    · exact absurd hhist same.not_written
    · cases deed with
      | outputEnded | outputRead | outputFailed => exact absurd hhist.symm (List.cons_ne_self _ _)
      | delivered sink write | deliverFailed sink write =>
        cases hhist
        exact ⟨⟨_, next⟩, sink, by rw [write]⟩
      | sent offers | refused offers | broken offers | sendFailed offers => exact (offers.not_output output).elim
      | _ => cases output

/-! ## Runs -/

/-- The books agree at every point of every run. -/
theorem outputInv_run {p : Plumbing} (queued : ∀ c, p.wrote c = (p.output c).queue.toList) (machine : ω)
    (input : ι) (outputs : OutputRoutes δ) (policy : StopPolicy) (bufferSize : Nat) (schedule : List (Event ω)) :
    OutputInv ((create p machine input outputs policy bufferSize).run schedule) :=
  run_induction (fun _ action hi => hi.outside action) (fun _ _ hi => { hi with })
    (fun _ _ hi h => h.outputInv hi) schedule _ (outputInv_create queued machine input outputs policy bufferSize)

/-- **At every point of every run, what was written to an output is, in order, what the channel's sink has
taken, the chunk with which the run has failed, the chunk on its way to the sink, and what is still in the
pipe.** The sink of a channel is passed the channel's own bytes only and each once; the counter of the channel
counts what its sink has taken. A run that goes on or has ended well has dropped nothing, and one that fails
at a write has dropped the chunk of that write, which is never longer than the buffer, and nothing else. -/
theorem output_conserved {p : Plumbing} (queued : ∀ c, p.wrote c = (p.output c).queue.toList) (machine : ω)
    (input : ι) (outputs : OutputRoutes δ) (policy : StopPolicy) (bufferSize : Nat) (schedule : List (Event ω)) :
    let r := (create p machine input outputs policy bufferSize).run schedule
    (∀ c, r.plumbing.wrote c =
      r.delivered c ++ r.dropped c ++ r.held c ++ (r.plumbing.output c).queue.toList) ∧
    (∀ c, r.offered c = r.delivered c ++ r.dropped c) ∧
    (∀ c : OutputChannel, r.stats.counter c.toChannel = min (r.delivered c).length RelayStats.limit) ∧
    (r.outcome = none ∨ r.outcome = some (.ok ()) → ∀ c, r.dropped c = []) ∧
    (∀ c place chunk e calls, r.history = .write c place chunk (.error e) :: calls →
      r.outcome = some (.error (.dataset e)) ∧ chunk ≠ [] ∧ chunk.length ≤ max bufferSize 1 ∧
        ∀ c', r.dropped c' = (if c = c' then chunk else []) ∧ r.held c' = []) ∧
    (∀ r' c place chunk result, r.turn? = some r' → r'.history = .write c place chunk result :: r.history →
      place = r.outputs.sink ω c.toChannel ∧ chunk = r.held c ∧
        result = (r.outputs.writeTo place chunk r.machine).1) := by
  intro r
  have hi : OutputInv r := outputInv_run queued machine input outputs policy bufferSize schedule
  have hsize : r.bufferSize = max bufferSize 1 := (settings_run _ schedule).2
  refine ⟨hi.conserved, hi.offered, hi.counted, hi.nothing_dropped, ?_, ?_⟩
  · intro c place chunk e calls hhist
    rw [← hsize]
    exact hi.failed_write hhist
  · intro r' c place chunk result hturn hhist
    obtain ⟨⟨rest, next⟩, hplace, hresult⟩ := (turn_of_turn? hturn).written hhist
    refine ⟨hplace, ?_, hresult⟩
    rw [held_of_deliver next, if_pos rfl]

/-- A run with a buffer of two bytes whose first write fails. -/
def failingRun : Relay Unit Rehearsal.MemoryDataset Rehearsal.MemoryDataset :=
  create .fresh () { name := "SYSIN" }
    { stdout := { name := "STDOUT", failAt := some 1 }, stderr := { name := "STDERR" },
      fallback := { name := "SYSOUT" } } .drainToEof 2

/-- The child writes three bytes, and the relay fails with the first two of them. -/
def failingSchedule : List (Event Unit) :=
  [.turn, .outside (.emit .stdout [1, 2, 3]), .turn, .turn, .turn, .turn, .turn, .turn, .turn]

/-- Of three bytes the two of the failed write are dropped, and the third is still in the pipe. -/
theorem output_conserved_failingRun :
    (∀ c, Plumbing.fresh.wrote c = (Plumbing.fresh.output c).queue.toList) ∧
    (failingRun.run failingSchedule).plumbing.wrote .stdout = [] ++ [1, 2] ++ [] ++ [3] ∧
    (failingRun.run failingSchedule).outcome = some (.error (.dataset (.write "STDOUT" .scripted))) := by
  have hqueued : ∀ c, Plumbing.fresh.wrote c = (Plumbing.fresh.output c).queue.toList :=
    Plumbing.unrelayed_fresh.queued
  obtain ⟨hconserved, -, -, -, hfailed, -⟩ := output_conserved hqueued failingRun.machine failingRun.input
    failingRun.outputs .drainToEof 2 failingSchedule
  obtain ⟨houtcome, -, -, hdropped⟩ := hfailed .stdout .stdout [1, 2] (.write "STDOUT" .scripted) _ rfl
  refine ⟨hqueued, ?_, houtcome⟩
  have hbooks := hconserved .stdout
  rw [(hdropped .stdout).1, (hdropped .stdout).2] at hbooks
  exact hbooks

end BatchJob.Relay
