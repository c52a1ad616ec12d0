import BatchJob.Job.Record
import BatchJob.Proofs.Job.Turn
import BatchJob.Proofs.Lifecycle.Calls

/-!
# The course of a job

Every point that a job can reach without operator commands, with the steps that lead there and the calls to the
launcher that they made (`Course`). There is one way to each phase, and the ways end where a step fails or the last
one has succeeded. One step of the main sequence leads from a point of the course to the next one (`Course.turn`), and
nothing that other parties do leads away from it (`Course.run`).
-/

namespace BatchJob

variable {σ : Type}

namespace Job

/-! ## The points of a course -/

/-- The steps up to the end of the relay. -/
def relaySteps (pid : Pid) (ended : Except RelayError Unit) : List JobStep :=
  [.spawned (.ok pid), .relayed ended]

/-- Where a job can stand, the steps that have led there, and the calls that they made, the last one first. -/
inductive Course : JobPhase → List JobStep → List LaunchCall → Prop
  | spawning : Course .spawning [] []
  | notSpawned (request : SpawnRequest) (e : LifecycleError) :
      Course (.over (.error (.spawning e))) [.spawned (.error e)] [.spawn request]
  | relaying (request : SpawnRequest) (pid : Pid) : Course (.relaying pid) [.spawned (.ok pid)] [.spawn request]
  | ending (request : SpawnRequest) (pid : Pid) (e : RelayError) :
      Course (.ending pid e) (relaySteps pid (.error e)) [.spawn request]
  /-- The child could not be told to end, and is left alone. -/
  | notSignalled (request : SpawnRequest) (pid : Pid) (e : RelayError) (cause : LaunchError)
      (lasting : cause.isGone = false) :
      Course (.over (.error (.relaying e))) (relaySteps pid (.error e) ++ [.signalled pid (.error cause)])
        [.signal pid .term, .spawn request]
  | awaiting (request : SpawnRequest) (pid : Pid) (e : RelayError) (signalled : Except LaunchError Unit)
      (reached : Reached signalled) :
      Course (.awaiting pid e) (relaySteps pid (.error e) ++ [.signalled pid signalled])
        [.signal pid .term, .spawn request]
  | awaited (request : SpawnRequest) (pid : Pid) (e : RelayError) (signalled : Except LaunchError Unit)
      (ended : Except LifecycleError Unit) (reached : Reached signalled) :
      Course (.over (.error (.relaying e)))
        (relaySteps pid (.error e) ++ [.signalled pid signalled, .awaited pid ended])
        [.wait pid, .signal pid .term, .spawn request]
  | reaping (request : SpawnRequest) (pid : Pid) :
      Course (.reaping pid) (relaySteps pid (.ok ())) [.spawn request]
  | notReaped (request : SpawnRequest) (pid : Pid) (e : LifecycleError) :
      Course (.over (.error (.reaping e))) (relaySteps pid (.ok ()) ++ [.reaped pid (.error e)])
        [.wait pid, .spawn request]
  | closing (request : SpawnRequest) (pid : Pid) (code : Int32) :
      Course (.closing code) (relaySteps pid (.ok ()) ++ [.reaped pid (.ok code)]) [.wait pid, .spawn request]
  | inputNotClosed (request : SpawnRequest) (pid : Pid) (code : Int32) (e : DatasetError) :
      Course (.over (.error (.closingInput e)))
        (relaySteps pid (.ok ()) ++ [.reaped pid (.ok code), .closedInput (.error e)]) [.wait pid, .spawn request]
  | outputsNotClosed (request : SpawnRequest) (pid : Pid) (code : Int32) (e : DatasetError) :
      Course (.over (.error (.closingOutputs e)))
        (relaySteps pid (.ok ()) ++ [.reaped pid (.ok code), .closedInput (.ok ()), .closedOutputs (.error e)])
        [.wait pid, .spawn request]
  | finished (request : SpawnRequest) (pid : Pid) (code : Int32) :
      Course (.over (.ok code))
        (relaySteps pid (.ok ()) ++ [.reaped pid (.ok code), .closedInput (.ok ()), .closedOutputs (.ok ())])
        [.wait pid, .spawn request]

variable {L : FileSystem → Launcher σ} {j j' : Job σ} {steps : List JobStep}

/-! ## One step -/

/-- A step that has to wait adds nothing to the record. -/
theorem nextSteps_of_waiting (h : j.turn? L = none) : j.nextSteps L = [] := by
  unfold turn? at h
  unfold nextSteps
  cases hphase : j.phase with
  | spawning | ending | closing =>
    simp only [hphase] at h
    cases h
  | relaying pid =>
    simp only [hphase, forward?] at h ⊢
    cases houtcome : j.relay.outcome with
    | none => rfl
    | some outcome =>
      rw [houtcome] at h
      cases outcome <;> cases h
  | awaiting pid failure | reaping pid =>
    simp only [hphase] at h ⊢
    by_cases hreturns : (L j.relay.machine).waitReturns pid j.lifecycle.host = true
    · rw [if_pos hreturns] at h
      cases h
    · exact if_neg hreturns
  | _ => rfl

/-- **A step leads from one point of the course to the next.** -/
theorem Course.turn {calls : List LaunchCall} (h : Course j.phase steps calls) (made : j.lifecycle.calls = calls)
    (turn : Turn (L j.relay.machine) j j') : Course j'.phase (steps ++ j.nextSteps L) j'.lifecycle.calls := by
  -- the phase fixes the point of the course, and with it the steps and the calls so far
  cases turn with
  | @started pid s phase spawn =>
    obtain ⟨request, hcalls⟩ := j.lifecycle.spawn_spec (L j.relay.machine) j.program j.account j.environment
    have hnext : j.nextSteps L = [.spawned (.ok pid)] := by simp only [nextSteps, phase, spawn]
    rw [phase] at h
    cases h
    rw [spawn, made] at hcalls
    rw [hnext, hcalls]
    exact .relaying request pid
  | @notStarted e s phase spawn =>
    obtain ⟨request, hcalls⟩ := j.lifecycle.spawn_spec (L j.relay.machine) j.program j.account j.environment
    have hnext : j.nextSteps L = [.spawned (.error e)] := by simp only [nextSteps, phase, spawn]
    rw [phase] at h
    cases h
    rw [spawn, made] at hcalls
    rw [hnext]
    show Course _ _ s.calls
    rw [hcalls]
    exact .notSpawned request e
  | relayed phase turn =>
    have hrunning : j.relay.outcome = none := by
      cases turn with
      | head running | deed running => exact running
    have hnext : j.nextSteps L = [] := by simp only [nextSteps, phase, hrunning, Option.map_none, Option.toList_none]
    rw [hnext, List.append_nil, made]
    exact h
  | @relayEnded pid phase outcome =>
    have hnext : j.nextSteps L = [.relayed (.ok ())] := by
      simp only [nextSteps, phase, outcome, Option.map_some, Option.toList_some]
    rw [phase] at h
    cases h
    rw [hnext]
    show Course _ _ j.lifecycle.calls
    rw [made]
    exact .reaping _ pid
  | @relayFailed pid e phase outcome =>
    have hnext : j.nextSteps L = [.relayed (.error e)] := by
      simp only [nextSteps, phase, outcome, Option.map_some, Option.toList_some]
    rw [phase] at h
    cases h
    rw [hnext]
    show Course _ _ j.lifecycle.calls
    rw [made]
    exact .ending _ pid e
  | @told pid e s phase signal =>
    obtain ⟨-, hcalls⟩ := j.lifecycle.signalGroup_spec (L j.relay.machine) pid .term
    have hnext : j.nextSteps L = [.signalled pid (j.lifecycle.callSignal (L j.relay.machine) pid .term).1] := by
      simp only [nextSteps, phase]
    rw [phase] at h
    cases h
    rw [signal, made] at hcalls
    rw [hnext, hcalls]
    exact .awaiting _ pid e _ (Lifecycle.reached_of_signalGroup signal)
  | @notTold pid e cause s phase signal =>
    obtain ⟨-, hcalls⟩ := j.lifecycle.signalGroup_spec (L j.relay.machine) pid .term
    obtain ⟨hphase, -, hmade⟩ := giveUp_spec { j with lifecycle := s } pid e (.error cause)
    obtain ⟨cause', hcause, hlasting⟩ := Lifecycle.lasting_of_signalGroup signal
    have hnext : j.nextSteps L = [.signalled pid (.error cause')] := by simp only [nextSteps, phase, hcause]
    rw [hphase, hmade, hnext]
    rw [phase] at h
    cases h
    rw [signal, made] at hcalls
    show Course _ _ s.calls
    rw [hcalls]
    exact .notSignalled _ pid e cause' hlasting
  | @awaited pid e ended s phase returns collect =>
    obtain ⟨-, hcalls⟩ := j.lifecycle.collect_spec (L j.relay.machine) pid
    obtain ⟨hphase, -, hmade⟩ := giveUp_spec { j with lifecycle := s } pid e ended
    have hnext : j.nextSteps L = [.awaited pid ended] := by simp only [nextSteps, phase, returns, collect, if_true]
    rw [hphase, hmade, hnext]
    rw [phase] at h
    cases h with
    | awaiting request _ _ signalled reached =>
      rw [collect, made] at hcalls
      show Course _ _ s.calls
      rw [hcalls, List.append_assoc]
      exact .awaited request pid e signalled ended reached
  | @reaped pid code s phase returns reap =>
    obtain ⟨-, hcalls⟩ := j.lifecycle.reap_spec (L j.relay.machine) pid
    have hnext : j.nextSteps L = [.reaped pid (.ok code)] := by simp only [nextSteps, phase, returns, reap, if_true]
    rw [phase] at h
    cases h
    rw [reap, made] at hcalls
    rw [hnext, hcalls]
    exact .closing _ pid code
  | @notReaped pid e s phase returns reap =>
    obtain ⟨-, hcalls⟩ := j.lifecycle.reap_spec (L j.relay.machine) pid
    have hnext : j.nextSteps L = [.reaped pid (.error e)] := by simp only [nextSteps, phase, returns, reap, if_true]
    rw [phase] at h
    cases h
    rw [reap, made] at hcalls
    rw [hnext]
    show Course _ _ s.calls
    rw [hcalls]
    exact .notReaped _ pid e
  | @inputNotClosed code e input machine phase close =>
    have hnext : j.nextSteps L = [.closedInput (.error e)] := by simp only [nextSteps, phase, closings, close]
    rw [phase] at h
    cases h with
    | closing request pid =>
      rw [hnext, List.append_assoc]
      show Course _ _ j.lifecycle.calls
      rw [made]
      exact .inputNotClosed request pid code e
  | @outputsNotClosed code e input outputs machine machine' phase close closeAll =>
    have hnext : j.nextSteps L = [.closedInput (.ok ()), .closedOutputs (.error e)] := by
      simp only [nextSteps, phase, closings, close, closeAll]
    rw [phase] at h
    cases h with
    | closing request pid =>
      rw [hnext, List.append_assoc]
      show Course _ _ j.lifecycle.calls
      rw [made]
      exact .outputsNotClosed request pid code e
  | @finished code input outputs machine machine' phase close closeAll =>
    have hnext : j.nextSteps L = [.closedInput (.ok ()), .closedOutputs (.ok ())] := by
      simp only [nextSteps, phase, closings, close, closeAll]
    rw [phase] at h
    cases h with
    | closing request pid =>
      rw [hnext, List.append_assoc]
      show Course _ _ j.lifecycle.calls
      rw [made]
      exact .finished request pid code

/-! ## Whole runs -/

/-- An operator's listener that hears no STOP: all it does is to log. -/
def LogsOnly (change : Lifecycle σ → Lifecycle σ) : Prop :=
  ∀ s, ∃ log, change s = { s with log }

/-- No operator command is heard. -/
def Unasked (schedule : List (Event σ)) : Prop :=
  ∀ change, .operator change ∈ schedule → LogsOnly change

namespace Record

variable {r : Record σ}

/-- A job that is on its course. -/
def OnCourse (r : Record σ) : Prop :=
  Course r.job.phase r.steps r.job.lifecycle.calls

/-- An event leads from one point of the course to another. -/
theorem OnCourse.advance (h : r.OnCourse) {e : Event σ} (unasked : ∀ change, e = .operator change → LogsOnly change) :
    (r.advance L e).OnCourse := by
  cases e with
  | outside change => exact h
  | operator change =>
    obtain ⟨log, hlog⟩ := unasked change rfl r.job.lifecycle
    show Course r.job.phase r.steps (change r.job.lifecycle).calls
    rw [hlog]
    exact h
  | turn =>
    show Course ((r.job.turn? L).getD r.job).phase (r.steps ++ r.job.nextSteps L)
      ((r.job.turn? L).getD r.job).lifecycle.calls
    cases hturn : r.job.turn? L with
    | none =>
      rw [nextSteps_of_waiting hturn, List.append_nil]
      exact h
    | some j' => exact Course.turn h rfl (turn_of_turn? hturn)

/-- **A job stays on its course.** -/
theorem OnCourse.run (h : r.OnCourse) {schedule : List (Event σ)} (unasked : Unasked schedule) :
    (r.run L schedule).OnCourse := by
  induction schedule generalizing r with
  | nil => exact h
  | cons e schedule ih =>
    refine ih (h.advance fun change he => unasked change (he ▸ List.mem_cons_self)) fun change hmem => ?_
    exact unasked change (List.mem_cons_of_mem e hmem)

end Record

end Job

end BatchJob
