import BatchJob.Job.Basic
import BatchJob.Proofs.Relay.Turn

/-!
# One step of a job, case by case

`Turn L j j'` lists what one step of the main sequence can do, each case with what it found. `turn_of_turn?`
says that the main sequence does nothing else; invariants of a job go by the cases of `Turn`. `run_keeps` is
the other half: what every event of a schedule keeps, the job keeps.
-/

namespace BatchJob.Job

variable {σ : Type} {L : Launcher σ} {j j' : Job σ}

/-- What one step of a job does. -/
inductive Turn (L : Launcher σ) (j : Job σ) : Job σ → Prop
  | started {pid : Pid} {s : Lifecycle σ} (phase : j.phase = .spawning)
      (spawn : j.lifecycle.spawn L j.program j.account j.environment = (.ok pid, s)) :
      Turn L j { j with lifecycle := s, phase := .relaying pid }
  | notStarted {e : LifecycleError} {s : Lifecycle σ} (phase : j.phase = .spawning)
      (spawn : j.lifecycle.spawn L j.program j.account j.environment = (.error e, s)) :
      Turn L j ({ j with lifecycle := s }.fail (.spawning e))
  | relayed {pid : Pid} {relay : Relay FileSystem Dataset Dataset} (phase : j.phase = .relaying pid)
      (turn : Relay.Turn j.relay relay) : Turn L j { j with relay }
  | relayEnded {pid : Pid} (phase : j.phase = .relaying pid) (outcome : j.relay.outcome = some (.ok ())) :
      Turn L j { j.closePipes with phase := .reaping pid }
  | relayFailed {pid : Pid} {e : RelayError} (phase : j.phase = .relaying pid)
      (outcome : j.relay.outcome = some (.error e)) :
      Turn L j { j.logged .error ("I/O relay failed: " ++ e.message) with phase := .ending pid e }
  | told {pid : Pid} {e : RelayError} {s : Lifecycle σ} (phase : j.phase = .ending pid e)
      (signal : j.lifecycle.signalGroup L pid .term = (.ok (), s)) :
      Turn L j { j with lifecycle := s, phase := .awaiting pid e }
  | notTold {pid : Pid} {e : RelayError} {cause : LifecycleError} {s : Lifecycle σ} (phase : j.phase = .ending pid e)
      (signal : j.lifecycle.signalGroup L pid .term = (.error cause, s)) :
      Turn L j ({ j with lifecycle := s }.giveUp pid e (.error cause))
  | awaited {pid : Pid} {e : RelayError} {ended : Except LifecycleError Unit} {s : Lifecycle σ}
      (phase : j.phase = .awaiting pid e) (returns : L.waitReturns pid j.lifecycle.host = true)
      (collect : j.lifecycle.collect L pid = (ended, s)) : Turn L j ({ j with lifecycle := s }.giveUp pid e ended)
  | reaped {pid : Pid} {code : Int32} {s : Lifecycle σ} (phase : j.phase = .reaping pid)
      (returns : L.waitReturns pid j.lifecycle.host = true) (reap : j.lifecycle.reap L pid = (.ok code, s)) :
      Turn L j { j with lifecycle := s, phase := .closing code }
  | notReaped {pid : Pid} {e : LifecycleError} {s : Lifecycle σ} (phase : j.phase = .reaping pid)
      (returns : L.waitReturns pid j.lifecycle.host = true) (reap : j.lifecycle.reap L pid = (.error e, s)) :
      Turn L j ({ j with lifecycle := s }.fail (.reaping e))
  | inputNotClosed {code : Int32} {e : DatasetError} {input : Dataset} {machine : FileSystem}
      (phase : j.phase = .closing code) (close : j.relay.input.close j.relay.machine = (.error e, input, machine)) :
      Turn L j ({ j with relay := { j.relay with input, machine } }.fail (.closingInput e))
  | outputsNotClosed {code : Int32} {e : DatasetError} {input : Dataset} {outputs : OutputRoutes Dataset}
      {machine machine' : FileSystem} (phase : j.phase = .closing code)
      (close : j.relay.input.close j.relay.machine = (.ok (), input, machine))
      (closeAll : j.relay.outputs.closeAll machine = (.error e, outputs, machine')) :
      Turn L j ({ j with relay := { j.relay with input, outputs, machine := machine' } }.fail (.closingOutputs e))
  | finished {code : Int32} {input : Dataset} {outputs : OutputRoutes Dataset} {machine machine' : FileSystem}
      (phase : j.phase = .closing code) (close : j.relay.input.close j.relay.machine = (.ok (), input, machine))
      (closeAll : j.relay.outputs.closeAll machine = (.ok (), outputs, machine')) :
      Turn L j
        { { j with relay := { j.relay with input, outputs, machine := machine' } }.logged .info
            ("Job ended with return code " ++ toString code) with
          phase := .over (.ok code) }

/-! ## The main sequence does nothing else -/

theorem turn_start (phase : j.phase = .spawning) : Turn L j (j.start L) := by
  unfold start
  split
  next hspawn => exact .started phase hspawn
  next hspawn => exact .notStarted phase hspawn

theorem turn_of_forward? {pid : Pid} (phase : j.phase = .relaying pid) (h : j.forward? pid = some j') :
    Turn L j j' := by
  unfold forward? at h
  split at h
  next =>
    obtain ⟨relay, hturn, rfl⟩ := Option.map_eq_some_iff.mp h
    exact .relayed phase (Relay.turn_of_turn? hturn)
  next houtcome =>
    cases h
    exact .relayEnded phase houtcome
  next houtcome =>
    cases h
    exact .relayFailed phase houtcome

theorem turn_tellToEnd {pid : Pid} {e : RelayError} (phase : j.phase = .ending pid e) :
    Turn L j (j.tellToEnd L pid e) := by
  unfold tellToEnd
  split
  next hsignal => exact .told phase hsignal
  next hsignal => exact .notTold phase hsignal

theorem turn_reap {pid : Pid} (phase : j.phase = .reaping pid)
    (returns : L.waitReturns pid j.lifecycle.host = true) : Turn L j (j.reap L pid) := by
  unfold reap
  split
  next hreap => exact .reaped phase returns hreap
  next hreap => exact .notReaped phase returns hreap

theorem turn_finish {code : Int32} (phase : j.phase = .closing code) : Turn L j (j.finish code) := by
  unfold finish
  rcases hclose : j.relay.input.close j.relay.machine with ⟨result, input, machine⟩
  cases result with
  | error e => exact .inputNotClosed phase hclose
  | ok =>
    simp only
    rcases hall : j.relay.outputs.closeAll machine with ⟨result, outputs, machine'⟩
    cases result with
    | error e => exact .outputsNotClosed phase hclose hall
    | ok => exact .finished phase hclose hall

/-- **The step of a job is a `Turn`.** -/
theorem turn_of_turn? {L : FileSystem → Launcher σ} (h : j.turn? L = some j') : Turn (L j.relay.machine) j j' := by
  unfold turn? at h
  simp only at h
  split at h
  next hphase =>
    cases h
    exact turn_start hphase
  next hphase => exact turn_of_forward? hphase h
  next hphase =>
    cases h
    exact turn_tellToEnd hphase
  next hphase =>
    split at h
    next hreturns =>
      cases h
      exact .awaited hphase hreturns rfl
    next => cases h
  next hphase =>
    split at h
    next hreturns =>
      cases h
      exact turn_reap hphase hreturns
    next => cases h
  next hphase =>
    cases h
    exact turn_finish hphase
  next => cases h

/-- A step keeps the calls of the relay and adds at most one. -/
theorem Turn.calls (h : Turn L j j') :
    j'.relay.history = j.relay.history ∨ ∃ call, j'.relay.history = call :: j.relay.history := by
  cases h with
  | relayed _ turn => exact turn.calls
  | notTold | awaited =>
    unfold giveUp
    split <;> exact .inl rfl
  | _ => exact .inl rfl

/-- Giving up ends a job with the failure of its relay, and makes no call, whatever came of ending the child. -/
theorem giveUp_spec (j : Job σ) (pid : Pid) (failure : RelayError) (ended : Except LifecycleError Unit) :
    (j.giveUp pid failure ended).phase = .over (.error (.relaying failure)) ∧
      (j.giveUp pid failure ended).lifecycle.tracked = j.lifecycle.tracked ∧
      (j.giveUp pid failure ended).lifecycle.calls = j.lifecycle.calls := by
  unfold giveUp
  split <;> exact ⟨rfl, rfl, rfl⟩

theorem giveUp_outcome (j : Job σ) (pid : Pid) (failure : RelayError) (ended : Except LifecycleError Unit) :
    (j.giveUp pid failure ended).relay.outcome = j.relay.outcome := by
  unfold giveUp
  split <;> rfl

/-- Only a step of the relay changes how the relay has ended. -/
theorem Turn.relay_outcome (h : Turn L j j') :
    (∃ pid, j.phase = .relaying pid ∧ Relay.Turn j.relay j'.relay) ∨ j'.relay.outcome = j.relay.outcome := by
  cases h with
  | relayed phase turn => exact .inl ⟨_, phase, turn⟩
  | notTold | awaited => exact .inr (giveUp_outcome ..)
  | _ => exact .inr rfl

/-! ## Runs -/

variable {L : FileSystem → Launcher σ}

/-- When the main sequence is to take a step, it takes one or has to wait. -/
theorem advance_turn (L : FileSystem → Launcher σ) (j : Job σ) :
    j.advance L .turn = j ∨ Turn (L j.relay.machine) j (j.advance L .turn) := by
  show (j.turn? L).getD j = j ∨ Turn _ j ((j.turn? L).getD j)
  cases hturn : j.turn? L with
  | none => exact .inl rfl
  | some j' => exact .inr (turn_of_turn? hturn)

theorem run_append (j : Job σ) (s t : List (Event σ)) : j.run L (s ++ t) = (j.run L s).run L t :=
  List.foldl_append

/-- What each event of a schedule keeps, a run keeps. -/
theorem run_keeps {P : Job σ → Prop} :
    ∀ (schedule : List (Event σ)) (j : Job σ), (∀ e ∈ schedule, ∀ j, P j → P (j.advance L e)) → P j →
      P (j.run L schedule)
  | [], _, _, h => h
  | e :: schedule, j, keep, h =>
    run_keeps schedule (j.advance L e) (fun e he => keep e (List.mem_cons_of_mem _ he))
      (keep e List.mem_cons_self j h)

end BatchJob.Job
