import BatchJob.Lifecycle
import BatchJob.Lifecycle.ExitHandler
import BatchJob.Proofs.ExitRecord
import BatchJob.Rehearsal.ScriptedLauncher

/-!
# What the handler for child exits leaves on record

The record holds one child. However the exits are spread over the runs of the handler, what is on record after them
is the child that was collected last (`handleAll_eq`). So a call that reaps a child which the handler has collected
finds its status exactly if no other child was collected after it.

Main statement: `reap_finds_last`; `reap_misses_earlier` has two children that end together.
-/

namespace BatchJob

namespace ExitRecord

/-- A run of the handler records the children it collects one after the other. -/
theorem handle_eq (r : ExitRecord) (answers : List WaitAnswer) :
    r.handle answers = r.recordAll ((reported answers).filterMap WaitReport.terminal?) := by
  unfold handle collect recordAll
  rw [List.foldl_filterMap]
  congr 1
  funext r report
  cases report.terminal? <;> rfl

/-- So do several runs. -/
theorem handleAll_recordAll (r : ExitRecord) (runs : List (List WaitAnswer)) :
    r.handleAll runs = r.recordAll (collected runs) := by
  unfold handleAll collected
  induction runs generalizing r with
  | nil => rfl
  | cons answers runs ih =>
    rw [List.foldl_cons, List.flatMap_cons, recordAll_append, ← handle_eq]
    exact ih (r.handle answers)

/-- **After any runs of the handler, the child that was collected last is on record.** -/
theorem handleAll_eq (r : ExitRecord) (runs : List (List WaitAnswer)) :
    r.handleAll runs =
      match (collected runs).getLast? with
      | some (pid, status) => r.record pid status
      | none => r :=
  (r.handleAll_recordAll runs).trans (r.recordAll_eq (collected runs))

end ExitRecord

namespace Lifecycle

variable {σ : Type}

/-- A call that reaps a child which is gone answers from the record. -/
theorem reap_of_gone {L : Launcher σ} {pid : Pid} {s : Lifecycle σ} (gone : (L.wait pid s.host).1 = .ok none) :
    (s.reap L pid).1 =
      match s.exits.lookup pid with
      | some status => .ok status.returnCode
      | none => .error (.statusUnavailable pid) := by
  unfold reap callWait
  rcases hwait : L.wait pid s.host with ⟨result, host⟩
  rw [hwait] at gone
  cases gone
  simp only
  cases s.exits.lookup pid <;> rfl

/-- **A child that the handler has collected is reaped with the return code of its status if it was collected last,
and otherwise its status is unavailable.** This holds for any children in any order, however their exits are spread
over the runs of the handler, and whatever was on record before. -/
theorem reap_finds_last {L : Launcher σ} {pid : Pid} {status : ChildStatus} (s : Lifecycle σ)
    (runs : List (List WaitAnswer)) (nonzero : pid ≠ 0) (real : status.IsReal)
    (mem : (pid, status) ∈ ExitRecord.collected runs)
    (once : ((ExitRecord.collected runs).map Prod.fst).count pid = 1) (gone : (L.wait pid s.host).1 = .ok none) :
    ({ s with exits := s.exits.handleAll runs }.reap L pid).1 =
      if (ExitRecord.collected runs).getLast? = some (pid, status) then .ok status.returnCode
      else .error (.statusUnavailable pid) := by
  rw [reap_of_gone (s := { s with exits := s.exits.handleAll runs }) gone]
  simp only
  rw [ExitRecord.handleAll_eq]
  rcases List.eq_nil_or_concat (ExitRecord.collected runs) with hnil | ⟨earlier, last, hlast⟩
  · rw [hnil] at mem
    cases mem
  · obtain ⟨other, lastStatus⟩ := last
    rw [List.concat_eq_append] at hlast
    rw [hlast] at mem once ⊢
    rw [List.getLast?_concat]
    simp only
    by_cases hpid : other = pid
    · -- the tracked child is there only once, so that the last one has its status
      subst hpid
      have hearlier : (earlier.map Prod.fst).count other = 0 := by
        simpa [List.map_append, List.count_append] using once
      have hstatus : lastStatus = status := by
        rcases List.mem_append.mp mem with hmem | hmem
        · have hother : other ∈ earlier.map Prod.fst := List.mem_map.mpr ⟨(other, status), hmem, rfl⟩
          exact absurd hother (List.count_eq_zero.mp hearlier)
        · cases List.mem_singleton.mp hmem
          rfl
      subst hstatus
      rw [if_pos rfl, s.exits.lookup_record nonzero real]
    · have hother : some (other, lastStatus) ≠ some (pid, status) := by
        intro h
        cases h
        exact hpid rfl
      rw [if_neg hother, s.exits.lookup_record_ne lastStatus hpid]

/-! ### Two children that end together -/

/-- One run of the handler that finds the child 4321, and after it the child 4322. -/
def twoExits : List (List WaitAnswer) :=
  [[.ok (.exited 4321 3), .ok (.exited 4322 5), .ok .stillAlive]]

/-- The child that was collected last is reaped with its return code. -/
theorem reap_finds_last_twoExits :
    ({ host := {}, exits := ExitRecord.handleAll {} twoExits : Lifecycle Rehearsal.LaunchScript }.reap
      Rehearsal.LaunchScript.launcher 4322).1 = .ok 5 := by
  have hreal : (ChildStatus.exited 5).IsReal := show (0 : Int32) ≤ 5 by decide
  have hmem : (4322, ChildStatus.exited 5) ∈ ExitRecord.collected twoExits := by decide
  exact reap_finds_last { host := ({} : Rehearsal.LaunchScript) } twoExits (by decide) hreal hmem (by decide) rfl

/-- **The status of the other one is lost.** It was collected, and once only, but the record holds one child. -/
theorem reap_misses_earlier :
    (4321, .exited 3) ∈ ExitRecord.collected twoExits ∧
      ((ExitRecord.collected twoExits).map Prod.fst).count 4321 = 1 ∧
      (Rehearsal.LaunchScript.launcher.wait 4321 {}).1 = .ok none ∧
      ({ host := {}, exits := ExitRecord.handleAll {} twoExits : Lifecycle Rehearsal.LaunchScript }.reap
        Rehearsal.LaunchScript.launcher 4321).1 = .error (.statusUnavailable 4321) :=
  ⟨by decide, by decide, rfl, by rfl⟩

end Lifecycle

end BatchJob
