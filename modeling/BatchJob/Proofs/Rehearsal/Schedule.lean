import BatchJob.Job.Record
import BatchJob.Proofs.Job.SetUp
import BatchJob.Proofs.Job.Turn
import BatchJob.Rehearsal.JobScene

/-!
# A rehearsal is a run of the job

A rehearsal picks what happens next by a fixed rule. Without a listener all that it picks are steps of the child, of the
main sequence and of the clock, each of which is one event to the job (`JobScene.step?_eq`). So the whole rehearsal is
the run of the job under one schedule, which is computed here beside it (`Setting.schedule`), and what the rehearsal
ends with is what the report on just that run says (`Setting.Deaf.perform_eq`).
-/

namespace BatchJob

namespace Rehearsal

variable {σ : Type} {company : Company σ}

namespace JobScene

variable {s s' : JobScene σ}

/-- What a step of the child or a descendant is to the job. -/
def childEvent (company : Company σ) : Job.Event σ :=
  .outside fun shared => (company.act? shared).getD shared

/-- What a step of the clock is to the job. -/
def clockEvent (company : Company σ) : Job.Event σ :=
  .outside fun shared => { shared with host := (company.pass? shared.host).getD shared.host }

/-- The scene after an event. -/
def after (company : Company σ) (s : JobScene σ) (e : Job.Event σ) : JobScene σ :=
  { s with job := s.job.advance company.launcher e }

/-- What the next step of a rehearsal without a listener is to the job. -/
def event? (company : Company σ) (s : JobScene σ) : Option (Job.Event σ) :=
  if s.job.result?.isSome then none
  else if (s.childStep? company).isSome then some (childEvent company)
  else if (s.mainStep? company).isSome then some .turn
  else if (s.clockStep? company).isSome then some (clockEvent company)
  else none

theorem childStep?_eq (h : s.childStep? company = some s') : s' = s.after company (childEvent company) := by
  obtain ⟨shared, hact, rfl⟩ := Option.map_eq_some_iff.mp h
  show _ = { s with job := s.job.withShared ((company.act? s.job.shared).getD s.job.shared) }
  rw [hact]
  rfl

theorem mainStep?_eq (h : s.mainStep? company = some s') : s' = s.after company .turn := by
  unfold mainStep? at h
  split at h
  next => cases h
  next =>
    obtain ⟨job, hturn, rfl⟩ := Option.map_eq_some_iff.mp h
    show _ = { s with job := (s.job.turn? company.launcher).getD s.job }
    rw [hturn]
    rfl

theorem clockStep?_eq (h : s.clockStep? company = some s') : s' = s.after company (clockEvent company) := by
  obtain ⟨host, hpass, rfl⟩ := Option.map_eq_some_iff.mp h
  have hhost : (company.pass? s.job.shared.host).getD s.job.shared.host = host := by
    rw [show company.pass? s.job.shared.host = some host from hpass]
    rfl
  show _ = { s with job := s.job.withShared { s.job.shared with
    host := (company.pass? s.job.shared.host).getD s.job.shared.host } }
  rw [hhost]

/-- **Whatever a rehearsal without a listener picks next is one event to the job.** -/
theorem step?_eq (alone : s.listener = none) : s.step? company = (s.event? company).map (s.after company) := by
  have hlistener : s.listenerStep? company = none := by
    unfold listenerStep?
    rw [alone]
  unfold step? event?
  by_cases hover : s.job.result?.isSome = true
  · rw [if_pos hover, if_pos hover]
    rfl
  rw [if_neg hover, if_neg hover, hlistener]
  cases hchild : s.childStep? company with
  | some next => exact congrArg some (childStep?_eq hchild)
  | none =>
    cases hmain : s.mainStep? company with
    | some next => exact congrArg some (mainStep?_eq hmain)
    | none =>
      cases hclock : s.clockStep? company with
      | some next => exact congrArg some (clockStep?_eq hclock)
      | none => rfl

/-! ## The schedule -/

/-- The events of a rehearsal without a listener, until the job is over or nobody can act. -/
def playSchedule (company : Company σ) (fuel : Nat) (s : JobScene σ) : List (Job.Event σ) :=
  match fuel with
  | 0 => []
  | fuel + 1 =>
    match s.event? company with
    | some e => e :: playSchedule company fuel (s.after company e)
    | none => []

/-- The events of what the child still does after the job. -/
def childSchedule (company : Company σ) (fuel : Nat) (s : JobScene σ) : List (Job.Event σ) :=
  match fuel with
  | 0 => []
  | fuel + 1 =>
    if (s.childStep? company).isSome then
      childEvent company :: childSchedule company fuel (s.after company (childEvent company))
    else []

/-- The events of a whole rehearsal without a listener. -/
def schedule (company : Company σ) (fuel : Nat) (s : JobScene σ) : List (Job.Event σ) :=
  s.playSchedule company fuel ++ (s.play company fuel).childSchedule company fuel

/-- A rehearsal without a listener is the run of the job under its schedule. -/
theorem play_eq (fuel : Nat) (alone : s.listener = none) :
    s.play company fuel = { s with job := s.job.run company.launcher (s.playSchedule company fuel) } := by
  induction fuel generalizing s with
  | zero => rfl
  | succ fuel ih =>
    unfold play playSchedule
    rw [step?_eq alone]
    cases s.event? company with
    | none => rfl
    | some e =>
      have hnext : (s.after company e).listener = none := alone
      exact ih hnext

theorem playChild_eq (fuel : Nat) (s : JobScene σ) :
    s.playChild company fuel = { s with job := s.job.run company.launcher (s.childSchedule company fuel) } := by
  induction fuel generalizing s with
  | zero => rfl
  | succ fuel ih =>
    unfold playChild childSchedule
    cases hstep : s.childStep? company with
    | none => rfl
    | some next =>
      rw [childStep?_eq hstep]
      exact ih (s.after company (childEvent company))

theorem playWhole_eq (fuel : Nat) (alone : s.listener = none) :
    ((s.play company fuel).playChild company fuel).job = s.job.run company.launcher (s.schedule company fuel) := by
  unfold schedule
  rw [playChild_eq, Job.run_append, play_eq fuel alone]

theorem event?_cases {e : Job.Event σ} (h : s.event? company = some e) :
    e = childEvent company ∨ e = .turn ∨ e = clockEvent company := by
  unfold event? at h
  by_cases hover : s.job.result?.isSome = true
  · rw [if_pos hover] at h
    cases h
  rw [if_neg hover] at h
  by_cases hchild : (s.childStep? company).isSome = true
  · rw [if_pos hchild] at h
    exact .inl (Option.some.inj h).symm
  rw [if_neg hchild] at h
  by_cases hmain : (s.mainStep? company).isSome = true
  · rw [if_pos hmain] at h
    exact .inr (.inl (Option.some.inj h).symm)
  rw [if_neg hmain] at h
  by_cases hclock : (s.clockStep? company).isSome = true
  · rw [if_pos hclock] at h
    exact .inr (.inr (Option.some.inj h).symm)
  · rw [if_neg hclock] at h
    cases h

theorem mem_playSchedule {fuel : Nat} {e : Job.Event σ} (mem : e ∈ s.playSchedule company fuel) :
    e = childEvent company ∨ e = .turn ∨ e = clockEvent company := by
  induction fuel generalizing s with
  | zero => cases mem
  | succ fuel ih =>
    unfold playSchedule at mem
    cases hevent : s.event? company with
    | none =>
      rw [hevent] at mem
      cases mem
    | some first =>
      rw [hevent] at mem
      rcases List.mem_cons.mp mem with rfl | hlater
      · exact event?_cases hevent
      · exact ih hlater

theorem mem_childSchedule {fuel : Nat} {e : Job.Event σ} (mem : e ∈ s.childSchedule company fuel) :
    e = childEvent company := by
  induction fuel generalizing s with
  | zero => cases mem
  | succ fuel ih =>
    unfold childSchedule at mem
    split at mem
    next =>
      rcases List.mem_cons.mp mem with hfirst | hlater
      · exact hfirst
      · exact ih hlater
    next => cases mem

/-- Only three things happen in a rehearsal without a listener. -/
theorem mem_schedule {fuel : Nat} {e : Job.Event σ} (mem : e ∈ s.schedule company fuel) :
    e = childEvent company ∨ e = .turn ∨ e = clockEvent company := by
  rcases List.mem_append.mp mem with hplay | hchild
  · exact mem_playSchedule hplay
  · exact .inl (mem_childSchedule hchild)

theorem length_playSchedule (company : Company σ) (fuel : Nat) (s : JobScene σ) :
    (s.playSchedule company fuel).length ≤ fuel := by
  induction fuel generalizing s with
  | zero => exact Nat.le_refl 0
  | succ fuel ih =>
    unfold playSchedule
    split
    next => exact Nat.succ_le_succ (ih _)
    next => exact Nat.zero_le _

theorem length_childSchedule (company : Company σ) (fuel : Nat) (s : JobScene σ) :
    (s.childSchedule company fuel).length ≤ fuel := by
  induction fuel generalizing s with
  | zero => exact Nat.le_refl 0
  | succ fuel ih =>
    unfold childSchedule
    split
    next => exact Nat.succ_le_succ (ih _)
    next => exact Nat.zero_le _

/-- Before and after the end of the job there are no more events than steps were granted. -/
theorem length_schedule (company : Company σ) (fuel : Nat) (s : JobScene σ) :
    (s.schedule company fuel).length ≤ 2 * fuel := by
  have hplay := s.length_playSchedule company fuel
  have hchild := (s.play company fuel).length_childSchedule company fuel
  unfold schedule
  rw [List.length_append]
  omega

end JobScene

end Rehearsal

namespace Job.Record

variable {σ : Type} {L : FileSystem → Launcher σ}

/-- The record goes along with the job. -/
theorem job_run (r : Record σ) (schedule : List (Event σ)) : (r.run L schedule).job = r.job.run L schedule := by
  induction schedule generalizing r with
  | nil => rfl
  | cons e schedule ih => exact ih (r.advance L e)

end Job.Record

namespace Rehearsal.Setting

variable {σ : Type} {setting : Setting}

/-- A setting in which nobody listens to an operator. -/
structure Deaf (setting : Setting) : Prop where
  unscripted : setting.script = none
  console : setting.options.disableConsole = true ∨ setting.options.consolePath = none

theorem Deaf.operator (deaf : setting.Deaf) (fs : FileSystem) : setting.operator fs = .ok (none, fs) := by
  unfold Setting.operator RunOptions.openConsole
  rw [deaf.unscripted]
  rcases deaf.console with hdisabled | hpath
  · rw [hdisabled]
    rfl
  · rw [hpath]
    cases setting.options.disableConsole <;> rfl

/-- A rehearsal without an operator sets the job up, and nobody listens. -/
theorem Deaf.stage (deaf : setting.Deaf) (standardOutput : OpenFile) (fs : FileSystem) (host : σ) :
    setting.stage standardOutput fs host =
      match Job.create setting.options setting.config setting.vars setting.account standardOutput fs host with
      | (job, desk) => (job.map fun job => { job, spawnsLast := setting.spawnsLast }, desk) := by
  unfold Setting.stage
  rw [deaf.operator]
  simp only [Option.map_none, ite_self]

/-- The supervisor's own standard output in a rehearsal, and the files with it. -/
def standardOutput (fs : FileSystem) : OpenFile × FileSystem :=
  let (node, fs) := fs.addNode (.file FileSystem.newFileMode .empty)
  ({ node, access := .write }, fs)

/-- The events of a rehearsal without an operator; none if the set-up fails. -/
def schedule (setting : Setting) (company : Company σ) (fuel : Nat) (fs : FileSystem) (host : σ) :
    List (Job.Event σ) :=
  match (setting.stage (standardOutput fs).1 (standardOutput fs).2 host).1 with
  | .error _ => []
  | .ok scene => scene.schedule company fuel

/-- The report on the run of the job that a rehearsal without an operator makes. -/
def report (setting : Setting) (company : Company σ) (fuel : Nat) (fs : FileSystem) (host : σ) : Job.Report :=
  Job.conduct company.launcher (.granting setting.account) setting.options setting.config setting.vars false
    (standardOutput fs).1 (standardOutput fs).2 host (setting.schedule company fuel fs host)

end Rehearsal.Setting

end BatchJob
