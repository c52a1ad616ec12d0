import BatchJob.Proofs.Relay.Failure

/-!
# Draining the outputs to their end

Under the policy that drains, a run ends well when a wait has reported the shutdown signal
(`ReportsShutdown`) and a read of each output has found its end (`ReportsEnd`), in whatever order these came.
A run that has not seen the signal goes on although both outputs are at their end, and one that has seen it
goes on as long as an output is open.

By then everything was delivered that anybody has written. An output that has reached its end is sealed, so
that nothing can be added to it any more, and what was written before is with its sink (`DrainInv`).

Main statement: `drainToEof_complete`.
-/

namespace BatchJob.Relay

variable {ω ι δ : Type} [DatasetStream ω ι] [DatasetStream ω δ] {r r' : Relay ω ι δ}

/-! ## What is reported -/

/-- The next step is a wait, and it reports the shutdown signal. -/
structure ReportsShutdown (r : Relay ω ι δ) : Prop where
  waits : r.Waits
  fired : r.ready.shutdown = true

/-- The next step reads an output and finds its end. -/
structure ReportsEnd (r : Relay ω ι δ) (c : OutputChannel) : Prop where
  running : r.outcome = none
  serving : ∃ rest, r.agenda = .serveOutput c :: rest
  atEnd : ∃ pipe, (r.plumbing.output c).read r.bufferSize = (.done [], pipe)

/-- Only a wait that reports the signal starts to drain. -/
theorem Turn.starts_draining (h : Turn r r') (before : r.draining = false) (after : r'.draining = true) :
    r.ReportsShutdown := by
  cases h with
  | head running idle head =>
    cases head with
    | drained | stopped => exact absurd (before.symm.trans after) nofun
    | woken undrained =>
      have hdrains : (r.draining || (r.policy == .drainToEof && r.ready.shutdown)) = true := after
      rw [before, Bool.false_or, Bool.and_eq_true] at hdrains
      exact ⟨⟨running, idle, undrained⟩, hdrains.2⟩
  | deed _ _ deed =>
    rw [deed.draining, before] at after
    cases after

/-- Only a read that finds the end of an output closes it. -/
theorem Turn.ends_output (h : Turn r r') {c : OutputChannel} (before : (r.plumbing.output c).readOpen = true)
    (after : (r'.plumbing.output c).readOpen = false) : r.ReportsEnd c := by
  have hkept {r' : Relay ω ι δ} (same : r'.plumbing.output c = r.plumbing.output c)
      (after : (r'.plumbing.output c).readOpen = false) : False := by
    rw [same, before] at after
    cases after
  cases h with
  | head _ _ head => exact (hkept (head.sides.1.output c) after).elim
  | deed running next deed =>
    rcases deed.side with ⟨-, same⟩ | ⟨output, -⟩
    · exact (hkept (same.output c) after).elim
    · cases deed with
      | @outputEnded c' pipe read =>
        by_cases hc : c = c'
        · subst hc
          exact ⟨running, ⟨_, next⟩, ⟨pipe, read⟩⟩
        · exact (hkept (Plumbing.output_setOutput_ne hc _) after).elim
      | @outputRead c' bytes pipe read some =>
        by_cases hc : c = c'
        · subst hc
          -- a read that gives bytes leaves the end as it is
          have hsame : (r.plumbing.setOutput c pipe).output c = pipe := Plumbing.output_setOutput ..
          have hends := (Pipe.fetch_done (Pipe.read_done read).2).1
          have hopen : pipe.readOpen = true := by rw [hends]; exact before
          rw [← hsame] at hopen
          exact absurd (hopen.symm.trans after) nofun
        · exact (hkept (Plumbing.output_setOutput_ne hc _) after).elim
      | outputFailed | delivered | deliverFailed => exact (hkept rfl after).elim
      | sent offers | refused offers | broken offers | sendFailed offers => exact (offers.not_output output).elim
      | _ => cases output

/-- A run that has come to drain has reported the signal. -/
theorem reportsShutdown_of_draining {schedule : List (Event ω)} (before : r.draining = false)
    (after : (r.run schedule).draining = true) :
    ∃ s t, schedule = s ++ .turn :: t ∧ (r.run s).ReportsShutdown := by
  obtain ⟨s, e, t, rfl, hbefore, hafter⟩ := run_crossing (P := fun r => r.draining = true) schedule r
    (by rw [before]; nofun) after
  have hidle : (r.run s).draining = false := Bool.not_eq_true _ ▸ hbefore
  cases e with
  | outside | elsewhere => exact absurd hafter hbefore
  | turn =>
    refine ⟨s, t, rfl, ?_⟩
    cases hturn : (r.run s).turn? with
    | none =>
      rw [advance_stay hturn] at hafter
      exact absurd hafter hbefore
    | some r' =>
      rw [advance_turn hturn] at hafter
      exact (turn_of_turn? hturn).starts_draining hidle hafter

/-- An output that was closed during a run has reported its end. -/
theorem reportsEnd_of_closed {schedule : List (Event ω)} {c : OutputChannel}
    (before : (r.plumbing.output c).readOpen = true)
    (after : ((r.run schedule).plumbing.output c).readOpen = false) :
    ∃ s t, schedule = s ++ .turn :: t ∧ (r.run s).ReportsEnd c := by
  obtain ⟨s, e, t, rfl, hbefore, hafter⟩ := run_crossing
    (P := fun r => (r.plumbing.output c).readOpen = false) schedule r (by rw [before]; nofun) after
  have hopen : ((r.run s).plumbing.output c).readOpen = true := Bool.not_eq_false _ ▸ hbefore
  cases e with
  | outside action =>
    -- the relay's end is its own
    obtain ⟨more, hgrows⟩ := ((r.run s).plumbing.perform_effect action).grows c
    exact absurd (hgrows.readOpen.symm.trans hafter) hbefore
  | elsewhere => exact absurd hafter hbefore
  | turn =>
    refine ⟨s, t, rfl, ?_⟩
    cases hturn : (r.run s).turn? with
    | none =>
      rw [advance_stay hturn] at hafter
      exact absurd hafter hbefore
    | some r' =>
      rw [advance_turn hturn] at hafter
      exact (turn_of_turn? hturn).ends_output hopen hafter

/-! ## Draining once the signal was reported -/

theorem Turn.draining_of_draining (h : Turn r r') (before : r.draining = true) : r'.draining = true := by
  cases h with
  | head _ _ head =>
    cases head with
    | drained | stopped => exact before
    | woken =>
      show (r.draining || _) = true
      rw [before, Bool.true_or]
  | deed _ _ deed => rw [deed.draining, before]

/-- A run goes on draining. -/
theorem draining_run (before : r.draining = true) (schedule : List (Event ω)) : (r.run schedule).draining = true :=
  run_induction (P := fun r => r.draining = true) (fun _ _ h => h) (fun _ _ h => h)
    (fun _ _ h turn => turn.draining_of_draining h) schedule r before

/-- After a wait that reports the signal, a run under this policy drains. -/
theorem ReportsShutdown.draining_advance (h : r.ReportsShutdown) (policy : r.policy = .drainToEof) :
    (r.advance .turn).draining = true := by
  have hany : r.ready.any = true := by
    unfold Readiness.any
    rw [h.fired, Bool.or_true]
  have hwait : r.wait? = some { r with
      stats := r.stats.countWait, agenda := tasks r.ready, draining := r.draining || r.ready.shutdown } := by
    unfold wait?
    simp only
    rw [if_pos hany, policy]
  rw [advance_turn (h.waits.turn?_eq.trans hwait)]
  show (r.draining || r.ready.shutdown) = true
  rw [h.fired, Bool.or_true]

/-- At the head of the loop, a run that drains and has closed both outputs ends. -/
theorem ok_of_drained (running : r.outcome = none) (idle : r.agenda = []) (draining : r.draining = true)
    (closed : ∀ c, (r.plumbing.output c).readOpen = false) : (r.advance .turn).outcome = some (.ok ()) := by
  have hdrained : (r.draining && r.outputsDrained) = true :=
    Bool.and_eq_true_iff.mpr ⟨draining, outputsDrained_iff.mpr closed⟩
  have hhead : r.loopHead? = some { r with outcome := some (.ok ()) } := by
    unfold loopHead?
    rw [if_pos hdrained]
  rw [advance_turn ((turn?_idle running idle).trans hhead)]

/-! ## What a drained run has delivered -/

/-- What is known about a run that drains its outputs. -/
structure DrainInv (r : Relay ω ι δ) : Prop where
  policy : r.policy = .drainToEof
  output : OutputInv r
  ends : EndsInv r
  drained : r.outcome = some (.ok ()) →
    r.draining = true ∧ ∀ c, (r.plumbing.output c).readOpen = false ∧ r.plumbing.wrote c = r.delivered c

omit [DatasetStream ω ι] [DatasetStream ω δ] in
/-- Nothing is added to an output that is closed. -/
theorem DrainInv.outside (h : DrainInv r) (action : Plumbing.Action) :
    DrainInv { r with plumbing := r.plumbing.perform action } := by
  refine ⟨h.policy, h.output.outside action, h.ends.outside action, fun ok => ?_⟩
  obtain ⟨hdraining, hclosed⟩ := h.drained ok
  refine ⟨hdraining, fun c => ?_⟩
  obtain ⟨hshut, hdelivered⟩ := hclosed c
  obtain ⟨more, hgrows⟩ := (r.plumbing.perform_effect action).grows c
  have hnone : more = [] := (hgrows.sealed (h.ends.sealed c hshut)).1
  refine ⟨hgrows.readOpen.trans hshut, ?_⟩
  calc (r.plumbing.perform action).wrote c
      = r.plumbing.wrote c ++ more := hgrows.wrote
    _ = r.delivered c := by rw [hnone, List.append_nil, hdelivered]

theorem Turn.drainInv (h : Turn r r') (hi : DrainInv r) : DrainInv r' := by
  refine ⟨h.settings.1.trans hi.policy, h.outputInv hi.output, h.endsInv hi.ends, fun ok => ?_⟩
  have hdelivered := h.delivered_of_ok hi.output hi.ends ok
  cases h with
  | head running idle head =>
    cases head with
    | drained draining atEnd =>
      exact ⟨draining, fun c => ⟨outputsDrained_iff.mp atEnd c, (hdelivered c).1⟩⟩
    | stopped _ policy => cases hi.policy.symm.trans policy
    | woken => cases running.symm.trans ok
  | deed running _ deed =>
    rcases deed.outcome with hsame | ⟨e, he⟩
    · cases running.symm.trans (hsame.symm.trans ok)
    · cases he.symm.trans ok

/-- The invariant holds at every point of every run. -/
theorem drainInv_run {p : Plumbing} (hp : p.Unrelayed) (machine : ω) (input : ι) (outputs : OutputRoutes δ)
    (bufferSize : Nat) (schedule : List (Event ω)) :
    DrainInv ((create p machine input outputs .drainToEof bufferSize).run schedule) :=
  run_induction (fun _ action hi => hi.outside action)
    (fun _ _ hi => ⟨hi.policy, { hi.output with }, { hi.ends with }, hi.drained⟩)
    (fun _ _ hi h => h.drainInv hi) schedule _
    ⟨rfl, outputInv_create hp.queued machine input outputs _ bufferSize,
      endsInv_create hp.shut machine input outputs _ bufferSize, nofun⟩

/-! ## The main statement -/

/-- **Under the policy that drains, a run ends well only after a wait has reported the shutdown signal and both
outputs have reported their end, in whatever order.** (An output that was closed before the run began was at its
end then.) By then both outputs are closed, and everything that anybody has written or ever will write to one of
them has been delivered to its sink. As long as the signal was not reported the run goes on, unless a call to a
dataset has failed, even with both outputs at their end; once all three reports were made, it ends at the next
head of the loop. -/
theorem drainToEof_complete [LawfulReads ω ι] {p : Plumbing} (hp : p.Unrelayed) (machine : ω) (input : ι)
    (outputs : OutputRoutes δ) (bufferSize : Nat) :
    let r := fun schedule => (create p machine input outputs .drainToEof bufferSize).run schedule
    (∀ schedule, (r schedule).outcome = some (.ok ()) →
      (∃ s t, schedule = s ++ .turn :: t ∧ (r s).ReportsShutdown) ∧
      (∀ c, (p.output c).readOpen = true → ∃ s t, schedule = s ++ .turn :: t ∧ (r s).ReportsEnd c) ∧
      ∀ later c, ((r (schedule ++ later)).plumbing.output c).readOpen = false ∧
        (r (schedule ++ later)).plumbing.wrote c = (r schedule).delivered c) ∧
    (∀ schedule, (∀ s t, schedule = s ++ .turn :: t → ¬ (r s).ReportsShutdown) →
      (r schedule).outcome ≠ some (.ok ()) ∧ (Flawless (r schedule) → (r schedule).outcome = none)) ∧
    (∀ schedule, (r schedule).outcome = none → (r schedule).agenda = [] →
      (∃ s t, schedule = s ++ .turn :: t ∧ (r s).ReportsShutdown) →
      (∀ c, ((r schedule).plumbing.output c).readOpen = false) →
      (r (schedule ++ [.turn])).outcome = some (.ok ())) := by
  intro r
  have hinv (schedule : List (Event ω)) : DrainInv (r schedule) :=
    drainInv_run hp machine input outputs bufferSize schedule
  have hreported (schedule : List (Event ω)) (ok : (r schedule).outcome = some (.ok ())) :
      ∃ s t, schedule = s ++ .turn :: t ∧ (r s).ReportsShutdown :=
    reportsShutdown_of_draining rfl ((hinv schedule).drained ok).1
  have hunreported (schedule : List (Event ω))
      (unreported : ∀ s t, schedule = s ++ .turn :: t → ¬ (r s).ReportsShutdown) :
      (r schedule).outcome ≠ some (.ok ()) := by
    intro ok
    obtain ⟨s, t, hsplit, hreports⟩ := hreported schedule ok
    exact unreported s t hsplit hreports
  refine ⟨fun schedule ok => ⟨hreported schedule ok, fun c hopen => ?_, fun later c => ?_⟩,
    fun schedule unreported => ⟨hunreported schedule unreported, fun hf => ?_⟩, ?_⟩
  · exact reportsEnd_of_closed (r := create p machine input outputs .drainToEof bufferSize) hopen
      (((hinv schedule).drained ok).2 c).1
  · have hover : r (schedule ++ later) = (r schedule).run later := run_append ..
    have hlater : (r (schedule ++ later)).outcome = some (.ok ()) := by
      rw [hover, outcome_run_over (by rw [ok]; nofun), ok]
    have hsame : (r (schedule ++ later)).delivered c = (r schedule).delivered c := by
      rw [hover, run_over (by rw [ok]; nofun)]
      rfl
    rw [← hsame]
    exact ((hinv _).drained hlater).2 c
  · cases houtcome : (r schedule).outcome with
    | none => rfl
    | some result =>
      cases result with
      | ok => exact absurd houtcome (hunreported schedule unreported)
      | error e =>
        exact absurd houtcome (unfailed_run hp machine input outputs .drainToEof bufferSize schedule hf e)
  · rintro schedule running idle ⟨s, t, rfl, hreports⟩ closed
    have hdraining : (r (s ++ .turn :: t)).draining = true := by
      show ((create p machine input outputs .drainToEof bufferSize).run (s ++ .turn :: t)).draining = true
      rw [run_append, run_cons]
      exact draining_run (hreports.draining_advance (hinv s).policy) t
    have hlast : r ((s ++ .turn :: t) ++ [.turn]) = (r (s ++ .turn :: t)).advance .turn := run_append ..
    rw [hlast]
    exact ok_of_drained running idle hdraining closed

/-- A run without input that drains its outputs. -/
def lateRun : Relay Unit Rehearsal.MemoryDataset Rehearsal.MemoryDataset :=
  create .fresh () { name := "STDIN", isOpen := false }
    { stdout := { name := "STDOUT" }, stderr := { name := "STDERR" }, fallback := { name := "SYSOUT" } }
    .drainToEof 4

/-- The first output ends before the signal is posted. -/
def beforeSignal : List (Event Unit) :=
  [.turn, .turn, .outside (.endOutput .stdout), .turn, .turn, .outside .post]

/-- A byte is written to the other one after a wait has reported the signal. -/
def lateSchedule : List (Event Unit) :=
  beforeSignal ++ .turn :: [.outside (.emit .stderr [7]), .turn, .turn, .turn, .outside (.endOutput .stderr), .turn,
    .turn]

/-- The run goes on until the other output has ended too, and the late byte was delivered. -/
theorem drainToEof_complete_lateRun :
    Plumbing.fresh.Unrelayed ∧ (lateRun.run beforeSignal).outcome = none ∧
      (lateRun.run (lateSchedule ++ [.turn])).outcome = some (.ok ()) ∧
      [7] = (lateRun.run (lateSchedule ++ [.turn])).delivered .stderr := by
  obtain ⟨hok, -, hends⟩ := drainToEof_complete Plumbing.unrelayed_fresh () lateRun.input lateRun.outputs 4
  have hreports : (lateRun.run beforeSignal).ReportsShutdown :=
    ⟨⟨by decide, by decide, by decide⟩, by decide⟩
  have hclosed : ∀ c, ((lateRun.run lateSchedule).plumbing.output c).readOpen = false := by
    intro c
    cases c <;> decide
  have hended : (lateRun.run (lateSchedule ++ [.turn])).outcome = some (.ok ()) :=
    hends lateSchedule (by decide) (by decide) ⟨beforeSignal, _, rfl, hreports⟩ hclosed
  have hdelivers (schedule : List (Event Unit)) (ok : (lateRun.run schedule).outcome = some (.ok ())) :
      (lateRun.run schedule).plumbing.wrote .stderr = (lateRun.run schedule).delivered .stderr := by
    have hall := ((hok schedule ok).2.2 [] .stderr).2
    rw [List.append_nil] at hall
    exact hall
  have hwrote : [7] = (lateRun.run (lateSchedule ++ [.turn])).plumbing.wrote .stderr := by decide
  exact ⟨Plumbing.unrelayed_fresh, hreports.waits.running, hended, hwrote.trans (hdelivers _ hended)⟩

end BatchJob.Relay
