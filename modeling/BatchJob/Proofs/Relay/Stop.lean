import BatchJob.Proofs.Relay.Ends
import BatchJob.Proofs.Relay.Output

/-!
# How a run ends

A run that ends well has delivered everything: whatever was written to an output up to then has been taken by
the sink of its channel (`Turn.delivered_of_ok`). A run that has ended does nothing any more, and the state
goes on to change only by what other parties do (`run_over`).

Under the policy that follows the signal only, the run ends well at the first wait that reports the signal and
nothing else (`Stops`), and at no other step.

Main statement: `signalOnly_stops`.
-/

namespace BatchJob.Relay

variable {ω ι δ : Type}

/-- The action of another party on the plumbing, if an event is one. -/
def Event.action? : Event ω → Option Plumbing.Action
  | .outside action => some action
  | _ => none

/-- The change of the machine by another party, if an event is one. -/
def Event.change? : Event ω → Option (ω → ω)
  | .elsewhere change => some change
  | _ => none

variable [DatasetStream ω ι] [DatasetStream ω δ] {r r' : Relay ω ι δ}

/-! ## Runs that have ended -/

theorem turn?_over (h : r.outcome ≠ none) : r.turn? = none := by
  unfold turn?
  split
  next => rfl
  next hrunning => exact absurd hrunning h

/-- **A run that has ended does nothing any more.** -/
theorem run_over (h : r.outcome ≠ none) (schedule : List (Event ω)) :
    r.run schedule = { r with
      plumbing := (schedule.filterMap Event.action?).foldl Plumbing.perform r.plumbing
      machine := (schedule.filterMap Event.change?).foldl (fun machine change => change machine) r.machine } := by
  induction schedule generalizing r with
  | nil => rfl
  | cons e schedule ih =>
    rw [run_cons]
    cases e with
    | outside action => exact ih h
    | elsewhere change => exact ih h
    | turn =>
      rw [advance_stay (turn?_over h)]
      exact ih h

theorem outcome_run_over (h : r.outcome ≠ none) (schedule : List (Event ω)) :
    (r.run schedule).outcome = r.outcome := by
  rw [run_over h]

/-- A task ends the run with a failure or not at all. -/
theorem Deed.outcome {task : RelayTask} {rest : List RelayTask} (h : Deed r rest task r') :
    r'.outcome = r.outcome ∨ ∃ e, r'.outcome = some (.error e) := by
  cases h with
  | readFailed | sendFailed | closeFailed | outputFailed | deliverFailed => exact .inr ⟨_, rfl⟩
  | _ => exact .inl rfl

/-- Only the head of the loop starts to drain. -/
theorem Deed.draining {task : RelayTask} {rest : List RelayTask} (h : Deed r rest task r') :
    r'.draining = r.draining := by
  cases h <;> rfl

/-! ## Runs that end well -/

omit [DatasetStream ω ι] [DatasetStream ω δ] in
/-- The outputs are drained when the relay has closed both of them. -/
theorem outputsDrained_iff : r.outputsDrained = true ↔ ∀ c, (r.plumbing.output c).readOpen = false := by
  unfold outputsDrained
  rw [Bool.and_eq_true, Bool.not_eq_true', Bool.not_eq_true']
  refine ⟨fun ⟨hstdout, hstderr⟩ c => ?_, fun h => ⟨h .stdout, h .stderr⟩⟩
  cases c with
  | stdout => exact hstdout
  | stderr => exact hstderr

omit [DatasetStream ω δ] in
/-- An output that a wait has found open and not ready is empty, and somebody can still write to it. -/
theorem quiet_of_still (still : r.ready.anyDescriptor = false) {c : OutputChannel}
    (hopen : (r.plumbing.output c).readOpen = true) :
    (r.plumbing.output c).queue.toList = [] ∧ (r.plumbing.output c).hasWriter = true := by
  simp only [Readiness.anyDescriptor, Bool.or_eq_false_iff] at still
  obtain ⟨⟨⟨-, -⟩, hstdout⟩, hstderr⟩ := still
  have hunready : (r.plumbing.output c).isReadable = false := by
    cases c with
    | stdout => exact (Bool.and_eq_false_iff.mp hstdout).resolve_left (ne_true_of_eq_false · hopen)
    | stderr => exact (Bool.and_eq_false_iff.mp hstderr).resolve_left (ne_true_of_eq_false · hopen)
  simp only [Pipe.isReadable, Bool.or_eq_false_iff, Bool.not_eq_false'] at hunready
  exact ⟨(ByteQueue.isEmpty_iff _).mp hunready.1, hunready.2⟩

omit [DatasetStream ω δ] in
/-- A run ends well only with both outputs empty. -/
theorem LoopHead.empty_of_ok (h : LoopHead r r') (hi : EndsInv r) (running : r.outcome = none)
    (ok : r'.outcome = some (.ok ())) (c : OutputChannel) : (r.plumbing.output c).queue.toList = [] := by
  cases h with
  | drained draining atEnd => exact (hi.sealed c (outputsDrained_iff.mp atEnd c)).empty
  | stopped _ _ _ still =>
    -- an output that is read was found empty, and one that is not read any more is sealed
    cases hopen : (r.plumbing.output c).readOpen with
    | true => exact (quiet_of_still still hopen).1
    | false => exact (hi.sealed c hopen).empty
  | woken => cases running.symm.trans ok

/-- **A run that ends well has delivered everything that was written.** -/
theorem Turn.delivered_of_ok (h : Turn r r') (ho : OutputInv r) (hi : EndsInv r)
    (ok : r'.outcome = some (.ok ())) (c : OutputChannel) :
    r'.plumbing.wrote c = r'.delivered c ∧ (r'.plumbing.output c).queue.toList = [] := by
  cases h with
  | head running idle head =>
    have hempty := head.empty_of_ok hi running ok c
    have hnone : r.held c = [] := by
      unfold held
      rw [idle]
      rfl
    have same := head.sides.1
    rw [same.wrote, same.delivered, same.output, ho.conserved, ho.nothing_dropped (.inl running), hnone, hempty]
    simp
  | deed running next deed =>
    rcases deed.outcome with hsame | ⟨e, he⟩
    · cases running.symm.trans (hsame.symm.trans ok)
    · cases he.symm.trans ok

/-! ## Following the signal only -/

/-- The next step is a wait that reports the signal and nothing else. -/
structure Stops (r : Relay ω ι δ) : Prop where
  running : r.outcome = none
  waiting : r.agenda = []
  fired : r.ready.shutdown = true
  still : r.ready.anyDescriptor = false

/-- A run that follows the signal only never drains. -/
structure SignalOnly (r : Relay ω ι δ) : Prop where
  policy : r.policy = .signalOnly
  undraining : r.draining = false

theorem Turn.signalOnly (h : Turn r r') (hs : SignalOnly r) : SignalOnly r' := by
  refine ⟨h.settings.1.trans hs.policy, ?_⟩
  cases h with
  | head running idle head =>
    cases head with
    | drained | stopped => exact hs.undraining
    | woken =>
      show (r.draining || (r.policy == .drainToEof && r.ready.shutdown)) = false
      rw [hs.undraining, hs.policy]
      rfl
  | deed running next deed =>
    rw [deed.draining, hs.undraining]

theorem signalOnly_advance (hs : SignalOnly r) (e : Event ω) : SignalOnly (r.advance e) :=
  advance_cases r e (fun _ _ => ⟨hs.policy, hs.undraining⟩) (fun _ _ => ⟨hs.policy, hs.undraining⟩)
    (fun _ h => h.signalOnly hs) hs

/-- The wait that reports the signal and nothing else ends the run. -/
theorem Stops.advance (h : r.Stops) (hs : SignalOnly r) :
    r.advance .turn = { r with stats := r.stats.countWait, outcome := some (.ok ()) } := by
  have hany : r.ready.any = true := by
    unfold Readiness.any
    rw [h.fired, Bool.or_true]
  have hwait : r.wait? = some { r with stats := r.stats.countWait, outcome := some (.ok ()) } := by
    unfold wait?
    simp only
    rw [if_pos hany, hs.policy]
    simp only
    rw [h.fired, h.still]
    rfl
  have hhead : r.loopHead? = r.wait? := by
    unfold loopHead?
    rw [hs.undraining, Bool.false_and, if_neg Bool.false_ne_true]
  have hturn : r.turn? = r.loopHead? := by
    unfold turn?
    split
    next hover => cases h.running.symm.trans hover
    next =>
      split
      next => rfl
      next hnext => cases h.waiting.symm.trans hnext
  exact advance_turn (hturn.trans (hhead.trans hwait))

/-- No other step ends the run well. -/
theorem Turn.stops_of_ok (h : Turn r r') (hs : SignalOnly r) (ok : r'.outcome = some (.ok ())) : r.Stops := by
  cases h with
  | head running idle head =>
    cases head with
    | drained draining => exact absurd (hs.undraining.symm.trans draining) nofun
    | stopped _ _ fired still => exact ⟨running, idle, fired, still⟩
    | woken => cases running.symm.trans ok
  | deed running next deed =>
    rcases deed.outcome with hsame | ⟨e, he⟩
    · cases running.symm.trans (hsame.symm.trans ok)
    · cases he.symm.trans ok

/-- What an event does to a run that goes on: it ends it well exactly if it is such a wait. -/
theorem ok_advance_iff (hs : SignalOnly r) (running : r.outcome = none) (e : Event ω) :
    (r.advance e).outcome = some (.ok ()) ↔ e = .turn ∧ r.Stops := by
  refine ⟨fun hok => ?_, ?_⟩
  · cases e with
    | outside | elsewhere => cases running.symm.trans hok
    | turn =>
      refine ⟨rfl, ?_⟩
      cases hturn : r.turn? with
      | none =>
        rw [advance_stay hturn] at hok
        cases running.symm.trans hok
      | some r' =>
        rw [advance_turn hturn] at hok
        exact (turn_of_turn? hturn).stops_of_ok hs hok
  · rintro ⟨rfl, hstops⟩
    rw [hstops.advance hs]

/-- A run ends well exactly at such a wait. -/
theorem ok_run_iff (schedule : List (Event ω)) {r : Relay ω ι δ} (hs : SignalOnly r) (running : r.outcome = none) :
    (r.run schedule).outcome = some (.ok ()) ↔ ∃ s t, schedule = s ++ .turn :: t ∧ (r.run s).Stops := by
  induction schedule generalizing r with
  | nil =>
    refine ⟨fun hok => ?_, ?_⟩
    · cases running.symm.trans hok
    · rintro ⟨s, t, hsplit, -⟩
      cases s <;> cases hsplit
  | cons e schedule ih =>
    rw [run_cons]
    -- either the run goes on after the first event, or it is over and stays as it is
    cases hnext : (r.advance e).outcome with
    | none =>
      rw [ih (signalOnly_advance hs e) hnext]
      refine ⟨?_, ?_⟩
      · rintro ⟨s, t, rfl, hstops⟩
        exact ⟨e :: s, t, rfl, hstops⟩
      · rintro ⟨s, t, hsplit, hstops⟩
        cases s with
        | nil =>
          cases hsplit
          cases hnext.symm.trans ((ok_advance_iff hs running .turn).mpr ⟨rfl, hstops⟩)
        | cons e' s =>
          cases hsplit
          exact ⟨s, t, rfl, hstops⟩
    | some result =>
      have hover : (r.advance e).outcome ≠ none := by
        rw [hnext]
        exact Option.some_ne_none _
      rw [outcome_run_over hover, ok_advance_iff hs running]
      refine ⟨?_, ?_⟩
      · rintro ⟨rfl, hstops⟩
        exact ⟨[], schedule, rfl, hstops⟩
      · rintro ⟨s, t, hsplit, hstops⟩
        cases s with
        | nil =>
          cases hsplit
          exact ⟨rfl, hstops⟩
        | cons e' s =>
          -- a run that has ended does not wait any more
          cases hsplit
          have hrunning := hstops.running
          rw [run_cons, outcome_run_over hover] at hrunning
          exact absurd hrunning hover

theorem signalOnly_run {p : Plumbing} (machine : ω) (input : ι) (outputs : OutputRoutes δ) (bufferSize : Nat)
    (schedule : List (Event ω)) : SignalOnly ((create p machine input outputs .signalOnly bufferSize).run schedule) :=
  run_keeps schedule _ (fun e _ _ hs => signalOnly_advance hs e) ⟨rfl, rfl⟩

/-- **Under the policy that follows the signal only, a run ends well exactly at the first wait that reports the
signal and nothing else.** At that wait every output that the relay still reads is empty and can still be
written to, and everything that was written to either output up to then has been delivered. After that wait the
relay does nothing any more: the state goes on to change only by what other parties do to the plumbing and the
machine. -/
theorem signalOnly_stops {p : Plumbing} (hp : p.Unrelayed) (machine : ω) (input : ι) (outputs : OutputRoutes δ)
    (bufferSize : Nat) :
    let r := fun schedule => (create p machine input outputs .signalOnly bufferSize).run schedule
    (∀ schedule, (r schedule).outcome = some (.ok ()) ↔ ∃ s t, schedule = s ++ .turn :: t ∧ (r s).Stops) ∧
    ∀ s, (r s).Stops →
      (∀ s' t', s = s' ++ .turn :: t' → ¬ (r s').Stops) ∧
      (∀ c, ((r s).plumbing.output c).readOpen = true →
        ((r s).plumbing.output c).queue.toList = [] ∧ ((r s).plumbing.output c).hasWriter = true) ∧
      (∀ c, (r s).plumbing.wrote c = (r s).delivered c) ∧
      ∀ t, r (s ++ .turn :: t) = { r s with
        stats := (r s).stats.countWait
        outcome := some (.ok ())
        plumbing := (t.filterMap Event.action?).foldl Plumbing.perform (r s).plumbing
        machine := (t.filterMap Event.change?).foldl (fun machine change => change machine) (r s).machine } := by
  intro r
  have hs (schedule : List (Event ω)) : SignalOnly (r schedule) :=
    signalOnly_run machine input outputs bufferSize schedule
  refine ⟨fun schedule => ok_run_iff schedule ⟨rfl, rfl⟩ rfl, fun s hstops => ⟨fun s' t' hsplit hstops' => ?_,
    fun c hopen => quiet_of_still hstops.still hopen, fun c => ?_, fun t => ?_⟩⟩
  · have hover : (r s).outcome = some (.ok ()) :=
      (ok_run_iff s ⟨rfl, rfl⟩ rfl).mpr ⟨s', t', hsplit, hstops'⟩
    cases hstops.running.symm.trans hover
  · have ho : OutputInv (r s) := outputInv_run hp.queued machine input outputs .signalOnly bufferSize s
    have he : EndsInv (r s) := endsInv_run hp.shut machine input outputs .signalOnly bufferSize s
    have hturn : Turn (r s) { r s with stats := (r s).stats.countWait, outcome := some (.ok ()) } :=
      .head hstops.running hstops.waiting (.stopped (by rw [(hs s).undraining]; rfl) (hs s).policy hstops.fired
        hstops.still)
    exact (hturn.delivered_of_ok ho he rfl c).1
  · show (create p machine input outputs .signalOnly bufferSize).run (s ++ .turn :: t) = _
    rw [run_append, run_cons]
    show ((r s).advance .turn).run t = _
    rw [hstops.advance (hs s), run_over (Option.some_ne_none _)]

/-- A run without input that follows the signal only. -/
def quietRun : Relay Unit Rehearsal.MemoryDataset Rehearsal.MemoryDataset :=
  create .fresh () { name := "STDIN", isOpen := false }
    { stdout := { name := "STDOUT" }, stderr := { name := "STDERR" }, fallback := { name := "SYSOUT" } }
    .signalOnly 4

/-- The child writes a byte before the signal is posted; the relay closes its input and delivers the byte. -/
def quietSchedule : List (Event Unit) :=
  [.outside (.emit .stdout [7]), .outside .post, .turn, .turn, .turn, .turn, .turn]

/-- The next wait ends the run; the byte was delivered. -/
theorem signalOnly_stops_quietRun :
    Plumbing.fresh.Unrelayed ∧ (quietRun.run quietSchedule).Stops ∧
      (quietRun.run (quietSchedule ++ [.turn])).outcome = some (.ok ()) ∧
      [7] = (quietRun.run quietSchedule).delivered .stdout := by
  obtain ⟨hok, hlast⟩ := signalOnly_stops Plumbing.unrelayed_fresh () quietRun.input quietRun.outputs 4
  have hstops : (quietRun.run quietSchedule).Stops := ⟨rfl, rfl, rfl, rfl⟩
  obtain ⟨-, -, hdelivered, -⟩ := hlast quietSchedule hstops
  exact ⟨Plumbing.unrelayed_fresh, hstops, (hok _).mpr ⟨quietSchedule, [], rfl, hstops⟩, hdelivered .stdout⟩

end BatchJob.Relay
