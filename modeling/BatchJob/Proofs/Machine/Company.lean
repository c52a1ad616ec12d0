import Mathlib.Data.List.Nodup
import BatchJob.Proofs.Job.Absence
import BatchJob.Proofs.Machine.Steps
import BatchJob.Proofs.Rehearsal.Schedule

/-!
# The machine as the company of a job

What holds of every step of the machine holds of a whole rehearsal on it. Its processes keep to the ends of the pipes
that are the child's (`keepsToEnds_schedule`), so a rehearsal is among the runs of which the theorems about jobs speak.
And no two processes have the same number, nor is the number taken that the next one gets, as long as the numbers last
(`numbered_perform`).
-/

namespace BatchJob

open Rehearsal

/-! ## Calls to the launcher -/

namespace Lifecycle

variable {σ : Type} (L : Launcher σ) (s : Lifecycle σ) (pid : Pid)

theorem signalGroup_host (signal : Signal) :
    (s.signalGroup L pid signal).2.host = (L.signalGroup pid signal s.host).2 := by
  unfold signalGroup callSignal
  rcases L.signalGroup pid signal s.host with ⟨_ | _, host⟩
  · simp only
    split <;> rfl
  · rfl

theorem callWait_host : (s.callWait L pid).2.host = (L.wait pid s.host).2 := by
  unfold callWait
  rcases L.wait pid s.host with ⟨_ | _ | _, host⟩ <;> rfl

theorem collect_host : (s.collect L pid).2.host = (L.wait pid s.host).2 := by
  rw [← callWait_host]
  unfold collect
  rcases s.callWait L pid with ⟨_ | _, s'⟩ <;> rfl

theorem reap_host : (s.reap L pid).2.host = (L.wait pid s.host).2 := by
  rw [← callWait_host]
  unfold reap
  rcases s.callWait L pid with ⟨_ | _ | _, s'⟩
  · rfl
  · simp only
    split <;> rfl
  · rfl

end Lifecycle

namespace Job

variable {σ : Type} {L : Launcher σ} {j j' : Job σ}

theorem giveUp_host (j : Job σ) (pid : Pid) (failure : RelayError) (ended : Except LifecycleError Unit) :
    (j.giveUp pid failure ended).lifecycle.host = j.lifecycle.host := by
  unfold giveUp
  split <;> rfl

/-- **A step of the main sequence leaves the launcher's state as it is, or makes one call.** -/
theorem Turn.host (h : Turn L j j') :
    j'.lifecycle.host = j.lifecycle.host ∨
    (∃ request, j'.lifecycle.host = (L.spawn request j.lifecycle.host).2) ∨
    (∃ group, j'.lifecycle.host = (L.signalGroup group .term j.lifecycle.host).2) ∨
    ∃ pid, j'.lifecycle.host = (L.wait pid j.lifecycle.host).2 := by
  cases h with
  | started phase spawn | notStarted phase spawn =>
    have hhost := (j.lifecycle.spawn_requestFor L j.program j.account j.environment).2.1
    rw [spawn] at hhost
    exact .inr (.inl ⟨_, hhost⟩)
  | @told pid _ _ phase signal =>
    have hhost := j.lifecycle.signalGroup_host L pid .term
    rw [signal] at hhost
    exact .inr (.inr (.inl ⟨_, hhost⟩))
  | @notTold pid _ _ _ phase signal =>
    have hhost := j.lifecycle.signalGroup_host L pid .term
    rw [signal] at hhost
    exact .inr (.inr (.inl ⟨_, (giveUp_host ..).trans hhost⟩))
  | @awaited pid _ _ _ phase returns collect =>
    have hhost := j.lifecycle.collect_host L pid
    rw [collect] at hhost
    exact .inr (.inr (.inr ⟨_, (giveUp_host ..).trans hhost⟩))
  | @reaped pid _ _ phase returns reap | @notReaped pid _ _ phase returns reap =>
    have hhost := j.lifecycle.reap_host L pid
    rw [reap] at hhost
    exact .inr (.inr (.inr ⟨_, hhost⟩))
  | _ => exact .inl rfl

end Job

namespace Machine

variable {m m' : Machine} {fs : FileSystem} {stdio : List (Nat × Descriptor)}

theorem evolves_signalling (m : Machine) (group : Pid) (signal : Signal) :
    m.Evolves 0 ((launcher stdio fs).signalGroup group signal m).2 := by
  have hsignalled := m.evolves_signalGroup group signal
  unfold launcher
  simp only
  rcases hresult : m.signalGroup group signal with ⟨_ | _, m'⟩ <;> rw [hresult] at hsignalled <;> exact hsignalled

theorem evolves_wait (m : Machine) (pid : Pid) : m.Evolves 0 ((launcher stdio fs).wait pid m).2 := by
  unfold launcher
  simp only
  split
  next => exact .refl m
  next => exact m.evolves_remove pid

/-- Time passes for everybody alike. -/
theorem evolves_pass? (h : pass? m = some m') : m.Evolves 0 m' := by
  obtain ⟨time, -, rfl⟩ := Option.map_eq_some_iff.mp h
  exact .of_processes rfl rfl

/-! ## Rehearsals -/

/-- The events of a rehearsal on the machine without an operator. -/
def IsEvent (e : Job.Event Machine) : Prop :=
  e = JobScene.childEvent company ∨ e = .turn ∨ e = JobScene.clockEvent company

/-- **Nobody touches the relay's own ends.** -/
theorem IsEvent.keepsToEnds {e : Job.Event Machine} (h : IsEvent e) : e.KeepsToEnds := by
  rcases h with rfl | rfl | rfl
  · intro s
    show ∃ actions : List Plumbing.Action,
      ((World.step? s).getD s).plumbing = actions.foldl Plumbing.perform s.plumbing
    cases hstep : World.step? s with
    | none => exact ⟨[], rfl⟩
    | some s' => exact (World.evolves_step? hstep).acts
  · trivial
  · exact fun s => ⟨[], rfl⟩

/-- An event starts one process at most. -/
theorem IsEvent.evolves {e : Job.Event Machine} (h : IsEvent e) (j : Job Machine) :
    j.lifecycle.host.Evolves 1 (j.advance company.launcher e).lifecycle.host := by
  have hnothing : j.lifecycle.host.Evolves 1 j.lifecycle.host := (Evolves.refl _).mono (Nat.zero_le 1)
  rcases h with rfl | rfl | rfl
  · show j.lifecycle.host.Evolves 1 ((World.step? j.shared).getD j.shared).host
    cases hstep : World.step? j.shared with
    | none => exact hnothing
    | some s' => exact (World.evolves_step? hstep).host
  · rcases j.advance_turn company.launcher with hsame | hturn
    · rw [hsame]
      exact hnothing
    · rcases hturn.host with hhost | ⟨request, hhost⟩ | ⟨group, hhost⟩ | ⟨pid, hhost⟩ <;> rw [hhost]
      · exact hnothing
      · exact evolves_spawn _ _ request j.lifecycle.host
      · exact (j.lifecycle.host.evolves_signalling group .term).mono (Nat.zero_le 1)
      · exact (j.lifecycle.host.evolves_wait pid).mono (Nat.zero_le 1)
  · show j.lifecycle.host.Evolves 1 ((pass? j.lifecycle.host).getD j.lifecycle.host)
    cases hpass : pass? j.lifecycle.host with
    | none => exact hnothing
    | some m' => exact (evolves_pass? hpass).mono (Nat.zero_le 1)

/-- So a run starts no more processes than it has events. -/
theorem evolves_run {schedule : List (Job.Event Machine)} (events : ∀ e ∈ schedule, IsEvent e) (j : Job Machine) :
    j.lifecycle.host.Evolves schedule.length (j.run company.launcher schedule).lifecycle.host := by
  induction schedule generalizing j with
  | nil => exact .refl _
  | cons e schedule ih =>
    obtain ⟨hfirst, hrest⟩ := List.forall_mem_cons.mp events
    have hwhole := (hfirst.evolves j).trans (ih hrest (j.advance company.launcher e))
    rw [Nat.add_comm] at hwhole
    exact hwhole

theorem isEvent_schedule {setting : Rehearsal.Setting} {fuel : Nat} {files : FileSystem} {host : Machine} :
    ∀ e ∈ setting.schedule company fuel files host, IsEvent e := by
  intro e hmem
  unfold Rehearsal.Setting.schedule at hmem
  split at hmem
  next => cases hmem
  next => exact JobScene.mem_schedule hmem

/-- **A rehearsal is a run in which everybody keeps to the child's ends.** -/
theorem keepsToEnds_schedule (setting : Rehearsal.Setting) (fuel : Nat) (files : FileSystem) (host : Machine) :
    ∀ e ∈ setting.schedule company fuel files host, e.KeepsToEnds :=
  fun e hmem => (isEvent_schedule e hmem).keepsToEnds

/-! ## Numbers that are taken -/

/-- How many numbers there are. -/
def pidCount : Nat := 4294967296

theorem nodup_nextPids (m : Machine) {n : Nat} (few : n ≤ pidCount) : (m.nextPids n).Nodup := by
  unfold nextPids
  refine List.Nodup.map_on (fun i hi k hk hsame => ?_) List.nodup_range
  have hi' := List.mem_range.mp hi
  have hk' := List.mem_range.mp hk
  have hnumber : Int32.ofNat (i + 1) = Int32.ofNat (k + 1) := (Int32.add_right_inj m.lastPid).mp hsame
  have hbits : BitVec.ofNat 32 (i + 1) = BitVec.ofNat 32 (k + 1) := congrArg Int32.toBitVec hnumber
  have hrest := congrArg BitVec.toNat hbits
  rw [BitVec.toNat_ofNat, BitVec.toNat_ofNat] at hrest
  unfold pidCount at few
  omega

/-- No two processes have the same number, and the next number is free. -/
structure Numbered (m : Machine) : Prop where
  distinct : m.pids.Nodup
  free : m.lastPid + 1 ∉ m.pids

theorem Evolves.numbered {n : Nat} (h : m.Evolves n m') (alone : m.processes = []) (few : n < pidCount) :
    m'.Numbered := by
  obtain ⟨started, hstarted, hlast, hpids⟩ := h
  -- the number that comes next is among those after the ones that were given
  have hnext : (m.nextPids (started + 1)).Nodup := m.nodup_nextPids (Nat.lt_of_le_of_lt hstarted few)
  rw [nextPids_add hlast] at hnext
  obtain ⟨hdistinct, -, hother⟩ := List.nodup_append.mp hnext
  have hnone : m.pids = [] := by rw [pids, alone, List.map_nil]
  rw [hnone, List.nil_append] at hpids
  refine ⟨hdistinct.sublist hpids, fun hmem => ?_⟩
  have hnumber : m'.lastPid + 1 ∈ m'.nextPids 1 := List.mem_singleton_self _
  exact hother _ (hpids.subset hmem) _ hnumber rfl

/-- **Whatever a rehearsal runs, the numbers of its processes stay apart.** -/
theorem numbered_perform {setting : Rehearsal.Setting} (deaf : setting.Deaf) {fuel : Nat} {files : FileSystem}
    {host left : Machine} (alone : host.processes = []) (few : 2 * fuel < pidCount)
    (ends : (setting.perform company fuel files host).host = some left) : left.Numbered := by
  simp only [Rehearsal.Setting.perform] at ends
  generalize files.addNode (.file FileSystem.newFileMode .empty) = made at ends
  simp only [deaf.stage] at ends
  rcases hcreate : Job.create setting.options setting.config setting.vars setting.account
    { node := made.1, access := .write } made.2 host with ⟨e | job, desk⟩ <;> rw [hcreate] at ends
  · cases ends
  · let scene : JobScene Machine := { job, spawnsLast := setting.spawnsLast }
    have hplay : ((scene.play company fuel).playChild company fuel).job =
        job.run company.launcher (scene.schedule company fuel) := JobScene.playWhole_eq fuel rfl
    have hevents : ∀ e ∈ scene.schedule company fuel, IsEvent e := fun _ => JobScene.mem_schedule
    have hleft : ((scene.play company fuel).playChild company fuel).job.lifecycle.host = left := Option.some.inj ends
    have hrun := evolves_run hevents job
    obtain ⟨-, -, hlifecycle⟩ := Job.create_ok hcreate
    rw [← hplay, hleft, hlifecycle] at hrun
    exact hrun.numbered alone (Nat.lt_of_le_of_lt (scene.length_schedule company fuel) few)

end Machine

end BatchJob
