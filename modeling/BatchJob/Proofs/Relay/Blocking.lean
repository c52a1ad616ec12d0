import BatchJob.Proofs.Dataset.Waiting
import BatchJob.Proofs.FileSystem.Regular
import BatchJob.Proofs.Relay.Drain

/-!
# When the relay waits

A run stands still only in a wait, and only when there is nothing that it could move (`Blocks`): every output
that it still reads is empty and can still be written to, the signal was not posted or has been heeded, and the
input is closed, or the child's input is full, or there is nothing to read (`InputStuck`).

No other call on a pipe or on the input keeps the relay waiting. It reads an input or an output only after a
wait has found it ready, and what was ready then is ready still; its writes to the child's input do not wait
for room, since that end was put into non-blocking mode before the first wait (`PromptInv`).

Main statement: `blocks_only_idle`.
-/

namespace BatchJob

/-- No post is under way: while the flag is up there is a byte in the wake pipe. -/
def ShutdownSignal.Settled (s : ShutdownSignal) : Prop :=
  s.posted = true → s.isReadable = true

theorem ShutdownSignal.Settled.post {s : ShutdownSignal} (h : s.Settled) : s.post.Settled := by
  intro _
  unfold ShutdownSignal.post swapPosted
  cases hposted : s.posted with
  | true => exact h hposted
  | false =>
    show decide (0 < min (s.wakeBytes + 1) wakeCapacity) = true
    have hroom : 0 < wakeCapacity := by decide
    rw [decide_eq_true_eq]
    omega

theorem Plumbing.Effect.settled {p p' : Plumbing} {action : Action} (h : p.Effect action p')
    (hs : p.shutdown.Settled) : p'.shutdown.Settled := by
  by_cases hpost : action = .post
  · subst hpost
    cases h with
    | idle => exact hs
    | posted => exact hs.post
  · rw [h.signal_eq hpost]
    exact hs

namespace Relay

variable {ω ι δ : Type} [DatasetStream ω ι] [DatasetStream ω δ] {r r' : Relay ω ι δ}

/-! ## Waits that block -/

/-- The next step is a wait, and nothing that it watches is ready. -/
structure Blocks (r : Relay ω ι δ) : Prop where
  waits : r.Waits
  still : r.ready.any = false

/-- Why a wait that blocks cannot move the input. -/
inductive InputStuck (idle : ι → ω → Prop) (r : Relay ω ι δ) : Prop
  /-- The child's input was closed. -/
  | closed (shut : r.plumbing.stdin.writeOpen = false)
  /-- There is no room for what is left of the chunk. -/
  | full (left : r.pending ≠ []) (full : r.plumbing.stdin.room = 0) (reader : r.plumbing.stdin.hasReader = true)
  /-- There is nothing to read. -/
  | starved (used : r.pending = []) (idle : idle r.input r.machine)
  /-- The input need not be waited for, and there is no room for what it would give. -/
  | unwatched (used : r.pending = []) (unpolled : DatasetStream.poll r.input r.machine = none)
      (full : r.plumbing.stdin.room = 0) (reader : r.plumbing.stdin.hasReader = true)

omit [DatasetStream ω δ] in
/-- A wait watches something: the signal, or an output that is to be drained. -/
theorem watched_any (undrained : (r.draining && r.outputsDrained) = false) : r.watched.any = true := by
  have hwatched : r.watched.stdout = r.plumbing.stdout.readOpen ∧ r.watched.stderr = r.plumbing.stderr.readOpen ∧
      r.watched.shutdown = r.watchesShutdown := ⟨rfl, rfl, rfl⟩
  obtain ⟨hstdout, hstderr, hshutdown⟩ := hwatched
  unfold Readiness.any Readiness.anyDescriptor
  rw [hstdout, hstderr, hshutdown]
  cases hdraining : r.draining with
  | false =>
    unfold watchesShutdown
    rw [hdraining]
    exact Bool.or_true _
  | true =>
    rw [hdraining, Bool.true_and] at undrained
    unfold outputsDrained at undrained
    cases hout : r.plumbing.stdout.readOpen with
    | true => simp
    | false =>
      cases herr : r.plumbing.stderr.readOpen with
      | true => simp
      | false =>
        rw [hout, herr] at undrained
        cases undrained

omit [DatasetStream ω δ] in
theorem Blocks.descriptors (h : r.Blocks) : r.ready.anyDescriptor = false ∧ r.ready.shutdown = false := by
  have hstill := h.still
  unfold Readiness.any at hstill
  exact Bool.or_eq_false_iff.mp hstill

omit [DatasetStream ω δ] in
/-- A wait that blocks has found no room in the child's input, or nothing to read. -/
theorem Blocks.inputStuck {idle : ι → ω → Prop} (law : PollLaw idle) (h : r.Blocks) : r.InputStuck idle := by
  have hstill := h.descriptors.1
  simp only [Readiness.anyDescriptor, Bool.or_eq_false_iff] at hstill
  obtain ⟨⟨⟨hinput, hstdin⟩, -⟩, -⟩ := hstill
  cases hopen : r.plumbing.stdin.writeOpen with
  | false => exact .closed hopen
  | true =>
    have hfull (watched : (!r.pending.isEmpty || (DatasetStream.poll r.input r.machine).isNone) = true) :
        r.plumbing.stdin.room = 0 ∧ r.plumbing.stdin.hasReader = true := by
      have hunready : r.plumbing.stdin.isWritable = false := by
        unfold ready Relay.watched at hstdin
        simpa [hopen, watched] using hstdin
      unfold Pipe.isWritable at hunready
      simp only [Bool.or_eq_false_iff, decide_eq_false_iff_not, Bool.not_eq_false'] at hunready
      exact ⟨Nat.eq_zero_of_not_pos hunready.1, hunready.2⟩
    by_cases hused : r.pending = []
    · cases hpoll : DatasetStream.poll r.input r.machine with
      | none =>
        obtain ⟨hroom, hreader⟩ := hfull (by rw [hpoll, hused]; rfl)
        exact .unwatched hused hpoll hroom hreader
      | some fed =>
        cases fed with
        | false => exact .starved hused (law.unready hpoll)
        | true =>
          unfold ready Relay.watched at hinput
          simp [hopen, hused, hpoll] at hinput
    · obtain ⟨hroom, hreader⟩ := hfull (by simp [hused])
      exact .full hused hroom hreader

omit [DatasetStream ω δ] in
/-- A signal that a wait has not reported was not posted, or the run drains and does not watch it any more. -/
theorem unposted_of_still (settled : r.plumbing.shutdown.Settled) (still : r.ready.shutdown = false) :
    r.plumbing.shutdown.posted = false ∨ (r.policy = .drainToEof ∧ r.draining = true) := by
  have hready : (r.watchesShutdown && r.plumbing.shutdown.isReadable) = false := still
  rcases Bool.and_eq_false_iff.mp hready with hunwatched | hsilent
  · unfold watchesShutdown at hunwatched
    simp only [Bool.or_eq_false_iff, Bool.not_eq_false'] at hunwatched
    refine .inr ⟨?_, hunwatched.1⟩
    cases hpolicy : r.policy with
    | drainToEof => rfl
    | signalOnly =>
      rw [hpolicy] at hunwatched
      cases hunwatched.2
  · refine .inl ?_
    cases hposted : r.plumbing.shutdown.posted with
    | false => rfl
    | true => cases hsilent.symm.trans (settled hposted)

/-! ## Steps that stall -/

/-- A task stalls only in a read or a write that has to wait. -/
theorem stalls {task : RelayTask} {rest : List RelayTask} (h : r.perform? task rest = none) :
    (task = .serveInput ∧ r.pending = [] ∧ r.nextRead.1 = .blocked) ∨
    (r.Offers task ∧ (r.plumbing.stdin.write r.pending).1 = .blocked) ∨
    ∃ c, task = .serveOutput c ∧ ((r.plumbing.output c).read r.bufferSize).1 = .blocked := by
  have hsend (offers : r.Offers task) (h : r.send? rest = none) :
      r.Offers task ∧ (r.plumbing.stdin.write r.pending).1 = .blocked := by
    refine ⟨offers, ?_⟩
    unfold send? at h
    split at h
    next hwrite => rw [hwrite]
    next => cases h
    next =>
      split at h
      next => cases h
      next => split at h <;> cases h
  cases task with
  | start | closeInput | deliver => cases h
  | serveInput =>
    simp only [perform?] at h
    split at h
    next hused =>
      refine .inl ⟨rfl, List.isEmpty_iff.mp hused, ?_⟩
      unfold refill? at h
      split at h
      next hread =>
        unfold nextRead
        rw [hread]
      next => cases h
      next =>
        simp only at h
        split at h <;> cases h
    next hleft => exact .inr (.inl (hsend (.inr ⟨rfl, by simpa using hleft⟩) h))
  | sendChunk => exact .inr (.inl (hsend (.inl rfl) h))
  | serveOutput c =>
    refine .inr (.inr ⟨c, rfl, ?_⟩)
    simp only [perform?, readOutput?] at h
    split at h
    next hread => rw [hread]
    next => cases h
    next => split at h <;> cases h

/-! ## What keeps the calls prompt -/

/-- The signal is whole, and the child's input does not keep a writer waiting once the run has started. -/
structure PromptInv (r : Relay ω ι δ) : Prop where
  settled : r.plumbing.shutdown.Settled
  unblocked : (∀ rest, r.agenda ≠ .start :: rest) → r.plumbing.stdin.writeOpen = true →
    r.plumbing.stdin.writeNonblocking = true

omit [DatasetStream ω ι] [DatasetStream ω δ] in
theorem PromptInv.outside (h : PromptInv r) (action : Plumbing.Action) :
    PromptInv { r with plumbing := r.plumbing.perform action } := by
  have heffect := r.plumbing.perform_effect action
  obtain ⟨hopen, hmode⟩ := heffect.ownEnd_eq
  refine ⟨heffect.settled h.settled, fun started open' => ?_⟩
  exact hmode.trans (h.unblocked started (hopen.symm.trans open'))

theorem Turn.shutdown (h : Turn r r') : r'.plumbing.shutdown = r.plumbing.shutdown := by
  cases h with
  | head _ _ head => cases head <;> rfl
  | deed _ _ deed => exact deed.shutdown

/-- After the first step the child's input is closed or in non-blocking mode, and it stays so. -/
theorem Turn.promptInv (h : Turn r r') (hi : PromptInv r) : PromptInv r' := by
  refine ⟨h.shutdown.symm ▸ hi.settled, fun _ => ?_⟩
  cases h with
  | head _ idle head =>
    rw [head.sides.2.stdin]
    exact hi.unblocked (by rw [idle]; nofun)
  | @deed task rest _ next deed =>
    have hkept (later : task ≠ .start) {stdin : Pipe} (sameOpen : stdin.writeOpen = r.plumbing.stdin.writeOpen)
        (sameMode : stdin.writeNonblocking = r.plumbing.stdin.writeNonblocking) (hopen : stdin.writeOpen = true) :
        stdin.writeNonblocking = true := by
      rw [sameMode]
      refine hi.unblocked (fun rest' hnext => ?_) (sameOpen.symm.trans hopen)
      rw [next] at hnext
      exact later (List.cons.inj hnext).1
    rcases deed.side with ⟨input, -⟩ | ⟨output, same⟩
    · cases deed with
      | unblocked isOpen set =>
        cases Pipe.setNonblocking_ok set
        exact fun _ => rfl
      | alreadyClosed isOpen shut => exact fun hopen => absurd (shut.symm.trans hopen) nofun
      | noInput | inputEnded | broken => nofun
      | sent offers write =>
        have hends := (Pipe.offer_done (Pipe.write_done write).2).1
        have hlater : task ≠ .start := by rcases offers with rfl | ⟨rfl, -⟩ <;> nofun
        exact hkept hlater (by rw [hends]) (by rw [hends])
      | refused offers | sendFailed offers =>
        have hlater : task ≠ .start := by rcases offers with rfl | ⟨rfl, -⟩ <;> nofun
        exact hkept hlater rfl rfl
      | readFailed | refilled | inputClosed | closeFailed => exact hkept nofun rfl rfl
      | _ => cases input
    · rw [same.stdin]
      refine hkept ?_ rfl rfl
      rintro rfl
      cases output

/-- The invariant holds at every point of every run. -/
theorem promptInv_run {p : Plumbing} (settled : p.shutdown.Settled) (machine : ω) (input : ι)
    (outputs : OutputRoutes δ) (policy : StopPolicy) (bufferSize : Nat) (schedule : List (Event ω)) :
    PromptInv ((create p machine input outputs policy bufferSize).run schedule) :=
  run_induction (fun _ action hi => hi.outside action) (fun _ _ hi => { hi with })
    (fun _ _ hi h => h.promptInv hi) schedule _ ⟨settled, fun started => absurd rfl (started [])⟩

/-- An input that is about to be read has been found ready. -/
def Fed (r : Relay ω ι δ) : Prop :=
  ∀ rest, r.agenda = .serveInput :: rest → r.pending = [] → DatasetStream.poll r.input r.machine ≠ some false

omit [DatasetStream ω δ] in
/-- What a wait puts on the agenda, it has found ready or not to be waited for. -/
theorem fed_of_tasks {rest : List RelayTask} (next : tasks r.ready = .serveInput :: rest) (used : r.pending = []) :
    DatasetStream.poll r.input r.machine ≠ some false := by
  intro hunready
  have hstill : (r.ready.input || r.ready.stdin) = false := by
    unfold ready watched
    simp [hunready, used]
  have hserves : servesInput (tasks r.ready) = true := by rw [next]; rfl
  rw [servesInput_of_sublist (tasks_of_still hstill)] at hserves
  cases hserves

/-- The input is read right after the wait that has found it ready. -/
theorem Turn.fed (h : Turn r r') (orderly : OrderlyAgenda r) : Fed r' := by
  intro rest' next' used
  cases h with
  | head _ idle head =>
    cases head with
    | drained | stopped => cases idle.symm.trans next'
    | woken => exact fed_of_tasks next' used
  | deed _ next deed => exact absurd next' (deed.not_serveInput (orderly.rest next) rest')

/-- A change of the machine takes nothing from an input that is about to be read. -/
def Spares (r : Relay ω ι δ) (change : ω → ω) : Prop :=
  Fed r → Fed { r with machine := change r.machine }

/-- Unless another party empties it, an input that is about to be read is ready still. -/
theorem fed_run (p : Plumbing) (machine : ω) (input : ι) (outputs : OutputRoutes δ) (policy : StopPolicy)
    (bufferSize : Nat) {schedule : List (Event ω)}
    (spared : ∀ s change t, schedule = s ++ .elsewhere change :: t →
      ((create p machine input outputs policy bufferSize).run s).Spares change) :
    Fed ((create p machine input outputs policy bufferSize).run schedule) := by
  refine Classical.byContradiction fun hbroken => ?_
  obtain ⟨s, e, t, hsplit, hbefore, hafter⟩ := run_crossing (P := fun r => ¬ Fed r) schedule
    (create p machine input outputs policy bufferSize) (not_not_intro nofun) hbroken
  have hfed := Classical.not_not.mp hbefore
  have horderly : OrderlyAgenda ((create p machine input outputs policy bufferSize).run s) :=
    run_induction (P := OrderlyAgenda) (fun _ _ h => h) (fun _ _ h => h) (fun _ _ h turn => turn.orderly h) s _
      (List.nil_sublist _)
  refine hafter (advance_cases (P := Fed) _ e ?_ ?_ ?_ hfed)
  · exact fun _ _ => hfed
  · rintro change rfl
    exact spared s change t hsplit hfed
  · exact fun r' turn => turn.fed horderly

/-! ## The main statement -/

omit [DatasetStream ω ι] [DatasetStream ω δ] in
/-- The child's input is in non-blocking mode when a chunk is offered to it. -/
theorem PromptInv.offers (h : PromptInv r) (hi : InputInv r) {task : RelayTask} {rest : List RelayTask}
    (next : r.agenda = task :: rest) (offers : r.Offers task) : r.plumbing.stdin.writeNonblocking = true := by
  have hserves : servesInput r.agenda = true := by
    rw [next]
    rcases offers with rfl | ⟨rfl, -⟩ <;> rfl
  refine h.unblocked (fun rest' hnext => ?_) (hi.serving hserves)
  rw [hnext] at hserves
  cases hserves

/-- **A run that stands still is in a wait that has found nothing ready.** -/
theorem blocks_of_stalled {idle : ι → ω → Prop} (law : PollLaw idle) (h : PromptInv r) (hi : InputInv r)
    (he : EndsInv r) (fed : Fed r) (running : r.outcome = none) (stalled : r.turn? = none) : r.Blocks := by
  cases hagenda : r.agenda with
  | nil =>
    rw [turn?_idle running hagenda] at stalled
    unfold loopHead? at stalled
    split at stalled
    next => cases stalled
    next hundrained =>
      refine ⟨⟨running, hagenda, Bool.not_eq_true _ ▸ hundrained⟩, ?_⟩
      unfold wait? at stalled
      simp only at stalled
      split at stalled
      next => split at stalled <;> first | cases stalled | (split at stalled <;> cases stalled)
      next hstill => exact Bool.not_eq_true _ ▸ hstill
  | cons task rest =>
    rw [turn?_task running hagenda] at stalled
    rcases stalls stalled with ⟨rfl, hused, hread⟩ | ⟨hoffers, hwrite⟩ | ⟨c, rfl, hread⟩
    · exact absurd hread (law.prompt (fed rest hagenda hused))
    · exact absurd hwrite (Pipe.write_prompt (h.offers hi hagenda hoffers) _)
    · obtain ⟨hopen, hready⟩ := he.served c (by rw [hagenda]; exact List.mem_cons_self)
      obtain ⟨bytes, pipe, hdone⟩ := Pipe.read_of_isReadable hopen hready r.bufferSize
      rw [hdone] at hread
      cases hread

theorem Blocks.turn?_eq (h : r.Blocks) : r.turn? = none := by
  rw [h.waits.turn?_eq]
  unfold wait?
  simp only
  rw [h.still, if_neg Bool.false_ne_true]

/-- **A run waits only when there is nothing to move, and only in its waits.** At every point of every run a wait
watches something. One that blocks has found every output that is still read empty and with somebody who can
write to it, the signal not posted, or reported to a run that drains, and an input that cannot be moved. An
output is read only while it holds data or is at its end, a chunk is offered in non-blocking mode, and an input
is read only when it is ready or need not be waited for, as long as other parties do not empty it after the
wait; then a run that goes on stands still in such a wait only. -/
theorem blocks_only_idle [DatasetStream FileSystem δ] {p : Plumbing} (hp : p.Unrelayed)
    (settled : p.shutdown.Settled) (machine : FileSystem) (input : Dataset) (outputs : OutputRoutes δ)
    (policy : StopPolicy) (bufferSize : Nat) (schedule : List (Event FileSystem)) :
    let run := fun schedule => (create p machine input outputs policy bufferSize).run schedule
    let r := run schedule
    (r.Waits → r.watched.any = true) ∧
    (r.Blocks →
      (∀ c, (r.plumbing.output c).readOpen = true →
        (r.plumbing.output c).queue.toList = [] ∧ (r.plumbing.output c).hasWriter = true) ∧
      (r.plumbing.shutdown.posted = false ∨
        policy = .drainToEof ∧ ∃ s t, schedule = s ++ .turn :: t ∧ (run s).ReportsShutdown) ∧
      r.InputStuck Dataset.Idle) ∧
    (∀ c rest, r.agenda = .serveOutput c :: rest →
      (r.plumbing.output c).isReadable = true ∧
        ∃ bytes pipe, (r.plumbing.output c).read r.bufferSize = (.done bytes, pipe)) ∧
    (∀ task rest, r.agenda = task :: rest → r.Offers task →
      r.plumbing.stdin.writeNonblocking = true ∧ (r.plumbing.stdin.write r.pending).1 ≠ .blocked) ∧
    ((∀ s change t, schedule = s ++ .elsewhere change :: t → (run s).Spares change) →
      (∀ rest, r.agenda = .serveInput :: rest → r.pending = [] →
        r.input.poll r.machine ≠ some false ∧ r.nextRead.1 ≠ .blocked) ∧
      (r.outcome = none ∧ r.turn? = none ↔ r.Blocks)) := by
  intro run r
  have hi : InputInv r := inputInv_run hp.untaken machine input outputs policy bufferSize schedule
  have he : EndsInv r := endsInv_run hp.shut machine input outputs policy bufferSize schedule
  have hprompt : PromptInv r := promptInv_run settled machine input outputs policy bufferSize schedule
  refine ⟨fun hwaits => watched_any hwaits.undrained,
    fun hblocks => ⟨fun c hopen => ?_, ?_, hblocks.inputStuck Dataset.idle_law⟩,
    fun c rest next => ?_, fun task rest next offers => ?_, fun spared => ⟨fun rest next used => ?_, ?_⟩⟩
  · exact quiet_of_still hblocks.descriptors.1 hopen
  · rcases unposted_of_still hprompt.settled hblocks.descriptors.2 with hunposted | ⟨hpolicy, hdraining⟩
    · exact .inl hunposted
    · have hsame : r.policy = policy := (settings_run _ schedule).1
      exact .inr ⟨hsame.symm.trans hpolicy, reportsShutdown_of_draining rfl hdraining⟩
  · obtain ⟨hopen, hready⟩ := he.served c (by rw [next]; exact List.mem_cons_self)
    exact ⟨hready, Pipe.read_of_isReadable hopen hready r.bufferSize⟩
  · have hmode := hprompt.offers hi next offers
    exact ⟨hmode, Pipe.write_prompt hmode _⟩
  · have hfed : Fed r := fed_run p machine input outputs policy bufferSize spared
    exact ⟨hfed rest next used, Dataset.read_prompt (hfed rest next used) _⟩
  · have hfed : Fed r := fed_run p machine input outputs policy bufferSize spared
    refine ⟨fun ⟨running, stalled⟩ => ?_, fun hblocks => ?_⟩
    · exact blocks_of_stalled Dataset.idle_law hprompt hi he hfed running stalled
    · exact ⟨hblocks.waits.running, hblocks.turn?_eq⟩

/-- A run whose input is an empty pipe that can still be written to. -/
def silentRun : Relay FileSystem Dataset Rehearsal.MemoryDataset :=
  create .fresh
    { names := [], workingDirectory := []
      nodes := #[.channel { readOpen := false, writeOpen := false, readDuplicates := 1, writeDuplicates := 1 }] }
    ⟨"STDIN", some (.reader [] { node := 0, access := .read })⟩
    { stdout := { name := "STDOUT" }, stderr := { name := "STDERR" }, fallback := { name := "SYSOUT" } }
    .signalOnly 4

/-- Somebody writes two bytes to the pipe. -/
def feed (fs : FileSystem) : FileSystem :=
  match fs.node 0 with
  | .channel pipe => fs.setNode 0 (.channel { pipe with queue := pipe.queue.append [1, 2] })
  | _ => fs

/-- The first wait blocks; the next one comes after the pipe was written to, and so is the input before the read. -/
def feeding : List (Event FileSystem) := [.turn, .elsewhere feed, .turn, .elsewhere feed]

/-- The first wait blocks, for want of input; the input is read once there is some. -/
theorem blocks_only_idle_silentRun :
    Plumbing.fresh.Unrelayed ∧ Plumbing.fresh.shutdown.Settled ∧ (silentRun.run [.turn]).Blocks ∧
      (silentRun.run [.turn]).InputStuck Dataset.Idle ∧ (silentRun.run feeding).agenda = [.serveInput] ∧
      (silentRun.run feeding).nextRead.1 ≠ .blocked := by
  have hsettled : Plumbing.fresh.shutdown.Settled := nofun
  have hstatement (schedule : List (Event FileSystem)) := blocks_only_idle Plumbing.unrelayed_fresh hsettled
    silentRun.machine silentRun.input silentRun.outputs .signalOnly 4 schedule
  have hblocks : (silentRun.run [.turn]).Blocks := ⟨⟨by decide, by decide, by decide⟩, by decide⟩
  have hstuck : (silentRun.run [.turn]).InputStuck Dataset.Idle := ((hstatement [.turn]).2.1 hblocks).2.2
  have hspared : ∀ s change t, feeding = s ++ .elsewhere change :: t → (silentRun.run s).Spares change := by
    intro s change t hsplit
    -- each of the two changes leaves more in the pipe
    have hpoll : ∀ s, s = [.turn] ∨ s = [.turn, .elsewhere feed, .turn] →
        (silentRun.run s).input.poll (feed (silentRun.run s).machine) ≠ some false := by
      rintro s (rfl | rfl) <;> decide
    have hcases : (s = [.turn] ∨ s = [.turn, .elsewhere feed, .turn]) ∧ change = feed := by
      unfold feeding at hsplit
      rcases s with _ | ⟨_, _ | ⟨_, _ | ⟨_, _ | ⟨_, _ | _⟩⟩⟩⟩ <;> cases hsplit
      · exact ⟨.inl rfl, rfl⟩
      · exact ⟨.inr rfl, rfl⟩
    obtain ⟨hs, rfl⟩ := hcases
    exact fun _ _ _ _ => hpoll s hs
  have hagenda : (silentRun.run feeding).agenda = [.serveInput] := by decide
  have hused : (silentRun.run feeding).pending = [] := by decide
  have hread : (silentRun.run feeding).nextRead.1 ≠ .blocked :=
    (((hstatement feeding).2.2.2.2 hspared).1 [] hagenda hused).2
  exact ⟨Plumbing.unrelayed_fresh, hsettled, hblocks, hstuck, hagenda, hread⟩

end Relay

end BatchJob
