import BatchJob.Proofs.Relay.Input
import BatchJob.Proofs.Relay.Stop

/-!
# When a run fails, and when it cannot end

What the relay does to the pipes never fails: it serves an output only when that is ready, it writes to the
child's input only while its own end is open, and an input that is full or broken is no failure. So a run
fails only with a call to a dataset that has failed (`Turn.failed_call`), and one none of whose calls has
failed goes on or has ended well (`Turn.unfailed`).

A run ends well only after the shutdown signal was posted: until then it goes on (`Unsignalled`).
-/

namespace BatchJob

/-- Whether a call has succeeded. -/
def RelayCall.succeeded : RelayCall → Bool
  | .read (.ok _) | .write _ _ _ (.ok ()) | .close (.ok ()) => true
  | _ => false

namespace Relay

variable {ω ι δ : Type} {r r' : Relay ω ι δ}

/-! ## Runs none of whose calls has failed -/

/-- No call of a run has failed. -/
def Flawless (r : Relay ω ι δ) : Prop :=
  ∀ call ∈ r.history, call.succeeded = true

theorem Flawless.of_calls (h : Flawless r')
    (calls : r'.history = r.history ∨ ∃ call, r'.history = call :: r.history) : Flawless r := by
  intro call hmem
  rcases calls with hsame | ⟨last, hnew⟩
  · exact h call (by rwa [hsame])
  · exact h call (by rw [hnew]; exact List.mem_cons_of_mem _ hmem)

/-- A write to the child's input is refused or finds nobody to read it; it does not fail otherwise. -/
theorem InputInv.not_sendFailed (h : InputInv r) {task : RelayTask} {rest : List RelayTask} (offers : r.Offers task)
    (next : r.agenda = task :: rest) {e : PipeError} {stdin : Pipe}
    (write : r.plumbing.stdin.write r.pending = (.failed e, stdin)) : e.isBroken = true ∨ e.isWouldBlock = true := by
  have hserves : servesInput r.agenda = true := by
    rw [next]
    rcases offers with rfl | ⟨rfl, -⟩ <;> rfl
  exact Pipe.write_failed (h.serving hserves) write

variable [DatasetStream ω ι] [DatasetStream ω δ]

/-- **A step that fails has made a call that failed.** -/
theorem Turn.failed_call (h : Turn r r') (hi : InputInv r) (he : EndsInv r) {e : RelayError}
    (failed : r'.outcome = some (.error e)) : ∃ call, r'.history = call :: r.history ∧ call.succeeded = false := by
  cases h with
  | head running _ head =>
    cases head with
    | drained | stopped => cases failed
    | woken => cases running.symm.trans failed
  | deed running next deed =>
    cases deed with
    | readFailed | closeFailed | deliverFailed => exact ⟨_, rfl, rfl⟩
    | sendFailed offers write notFull notBroken =>
      rcases hi.not_sendFailed offers next write with hbroken | hfull
      · cases notBroken.symm.trans hbroken
      · cases notFull.symm.trans hfull
    | outputFailed read => exact absurd read (he.not_outputFailed next)
    | _ => cases running.symm.trans failed

/-- A step after which no call has failed leaves the run going on, or ends it well. -/
theorem Turn.unfailed (h : Turn r r') (hi : InputInv r) (he : EndsInv r) (hf : Flawless r') (e : RelayError) :
    r'.outcome ≠ some (.error e) := by
  intro failed
  obtain ⟨call, hnew, hcall⟩ := h.failed_call hi he failed
  cases hcall.symm.trans (hf call (by rw [hnew]; exact List.mem_cons_self))

/-- If no call of a run has failed, none had before. -/
theorem Flawless.of_run (schedule : List (Event ω)) {r : Relay ω ι δ} (h : Flawless (r.run schedule)) : Flawless r := by
  induction schedule generalizing r with
  | nil => exact h
  | cons e schedule ih =>
    have hnext : Flawless (r.advance e) := ih h
    refine advance_cases (P := fun r' => Flawless r' → Flawless r) r e ?_ ?_ ?_ id hnext
    · exact fun _ _ => id
    · exact fun _ _ => id
    · exact fun r' turn hf => hf.of_calls turn.calls

/-- The steps after the end of a run make no call any more. -/
theorem flawless_turns {N : Nat} (ended : (r.run (List.replicate N .turn)).outcome ≠ none)
    (h : Flawless (r.run (List.replicate N .turn))) (n : Nat) : Flawless (r.run (List.replicate n .turn)) := by
  rcases Nat.le_total n N with hle | hge
  · obtain ⟨k, rfl⟩ := Nat.exists_eq_add_of_le hle
    rw [← List.replicate_append_replicate, run_append] at h
    exact h.of_run
  · obtain ⟨k, rfl⟩ := Nat.exists_eq_add_of_le hge
    rw [← List.replicate_append_replicate, run_append, run_over ended]
    exact h

/-- A run none of whose calls has failed has not failed. -/
theorem unfailed_run [LawfulReads ω ι] {p : Plumbing} (hp : p.Unrelayed) (machine : ω) (input : ι)
    (outputs : OutputRoutes δ) (policy : StopPolicy) (bufferSize : Nat) (schedule : List (Event ω))
    (hf : Flawless ((create p machine input outputs policy bufferSize).run schedule)) (e : RelayError) :
    ((create p machine input outputs policy bufferSize).run schedule).outcome ≠ some (.error e) := by
  have hinv := run_induction (P := fun r => InputInv r ∧ EndsInv r ∧ (Flawless r → ∀ e, r.outcome ≠ some (.error e)))
    (fun _ action h => ⟨h.1.outside action, h.2.1.outside action, h.2.2⟩)
    (fun _ _ h => ⟨{ h.1 with }, { h.2.1 with }, h.2.2⟩)
    (fun _ _ h turn => ⟨turn.inputInv h.1, turn.endsInv h.2.1, turn.unfailed h.1 h.2.1⟩) schedule
    (create p machine input outputs policy bufferSize)
    ⟨inputInv_create hp.untaken machine input outputs policy bufferSize,
      endsInv_create hp.shut machine input outputs policy bufferSize, nofun⟩
  exact hinv.2.2 hf e

/-! ## Runs that have not seen the signal -/

/-- The shutdown signal was not posted. -/
structure Unsignalled (r : Relay ω ι δ) : Prop where
  silent : r.plumbing.shutdown.isReadable = false
  undraining : r.draining = false
  going : r.outcome ≠ some (.ok ())

omit [DatasetStream ω ι] [DatasetStream ω δ] in
/-- Only a post touches the signal. -/
theorem Unsignalled.outside (h : Unsignalled r) {action : Plumbing.Action} (unposted : action ≠ .post) :
    Unsignalled { r with plumbing := r.plumbing.perform action } := by
  refine ⟨?_, h.undraining, h.going⟩
  show (r.plumbing.perform action).shutdown.isReadable = false
  rw [(r.plumbing.perform_effect action).signal_eq unposted]
  exact h.silent

omit [DatasetStream ω δ] in
theorem Unsignalled.not_fired (h : Unsignalled r) : r.ready.shutdown = false := by
  show (r.watched.shutdown && r.plumbing.shutdown.isReadable) = false
  rw [h.silent, Bool.and_false]

theorem Deed.shutdown {task : RelayTask} {rest : List RelayTask} (h : Deed r rest task r') :
    r'.plumbing.shutdown = r.plumbing.shutdown := by
  cases h with
  | outputEnded | outputRead => exact Plumbing.shutdown_setOutput ..
  | _ => rfl

/-- A run that has not seen the signal goes on. -/
theorem Turn.unsignalled (h : Turn r r') (hu : Unsignalled r) : Unsignalled r' := by
  cases h with
  | head running _ head =>
    cases head with
    | drained draining => cases hu.undraining.symm.trans draining
    | stopped _ _ fired => cases hu.not_fired.symm.trans fired
    | woken =>
      refine ⟨hu.silent, ?_, ?_⟩
      · show (r.draining || (r.policy == .drainToEof && r.ready.shutdown)) = false
        rw [hu.undraining, hu.not_fired, Bool.and_false]
        rfl
      · show r.outcome ≠ some (.ok ())
        exact hu.going
  | deed running next deed =>
    refine ⟨?_, ?_, ?_⟩
    · rw [deed.shutdown]
      exact hu.silent
    · rw [deed.draining, hu.undraining]
    · rcases deed.outcome with hsame | ⟨e, he⟩
      · rw [hsame]
        exact hu.going
      · rw [he]
        nofun

end Relay

end BatchJob
