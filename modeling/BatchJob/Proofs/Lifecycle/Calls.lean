import BatchJob.Job.Attended

/-!
# What the operations on the child call

Each operation on the child makes one call to the launcher, and only a start changes which child is tracked. A signal
that finds no such process group any more counts as sent (`signalGroup_cases`).
-/

namespace BatchJob

/-- The signal was sent, or there was no such process group any more. -/
def Reached (signalled : Except LaunchError Unit) : Prop :=
  ∀ cause, signalled = .error cause → cause.isGone = true

namespace Lifecycle

variable {σ : Type} (L : Launcher σ) (s : Lifecycle σ) (pid : Pid)

/-- Lines that are logged one after the other leave the rest as it is. -/
theorem foldl_logged (level : LogLevel) (text : String → String) (entries : List String) :
    ∃ log, entries.foldl (fun s entry => s.logged level (text entry)) s = { s with log } := by
  induction entries generalizing s with
  | nil => exact ⟨s.log, rfl⟩
  | cons entry entries ih =>
    obtain ⟨log, hlog⟩ := ih (s.logged level (text entry))
    exact ⟨log, hlog⟩

/-- A start is a launch, after which the child is tracked. -/
theorem spawn_eq (program : List String) (account : Account) (environment : Environment) :
    s.spawn L program account environment =
      match s.launch L program account environment with
      | (.ok pid, s) => (.ok pid, s.track pid)
      | (.error e, s) => (.error (.launch e), s) := rfl

theorem launch_spec (program : List String) (account : Account) (environment : Environment) :
    (s.launch L program account environment).2.tracked = s.tracked ∧
      ∃ request, (s.launch L program account environment).2.calls = .spawn request :: s.calls := by
  unfold launch
  obtain ⟨log, hlog⟩ := s.foldl_logged .warn ("Ignoring environment entry without '=': " ++ ·) environment.malformed
  simp only [hlog]
  exact ⟨rfl, _, rfl⟩

theorem spawn_spec (program : List String) (account : Account) (environment : Environment) :
    ∃ request, (s.spawn L program account environment).2.calls = .spawn request :: s.calls := by
  obtain ⟨-, request, hcalls⟩ := s.launch_spec L program account environment
  rw [spawn_eq]
  rcases hlaunch : s.launch L program account environment with ⟨_ | _, s'⟩ <;> rw [hlaunch] at hcalls <;>
  exact ⟨request, hcalls⟩

/-- What a start asks of the launcher. -/
def requestFor (program : List String) (account : Account) (environment : Environment) : SpawnRequest where
  program := (commandLine program account).1
  arguments := (commandLine program account).2
  environment := environment.pairs
  newGroup := true

@[simp] theorem requestFor_environment (program : List String) (account : Account) (environment : Environment) :
    (requestFor program account environment).environment = environment.pairs := rfl

/-- A start makes this one request, and its outcome is the launcher's. -/
theorem spawn_requestFor (program : List String) (account : Account) (environment : Environment) :
    let request := requestFor program account environment
    (s.spawn L program account environment).1 = (L.spawn request s.host).1.mapError .launch ∧
    (s.spawn L program account environment).2.host = (L.spawn request s.host).2 ∧
    (s.spawn L program account environment).2.calls = .spawn request :: s.calls := by
  obtain ⟨log, hlog⟩ := s.foldl_logged .warn ("Ignoring environment entry without '=': " ++ ·) environment.malformed
  unfold spawn callSpawn requestFor
  simp only [hlog]
  split
  · next hspawn =>
    obtain ⟨hresult, rfl⟩ := Prod.mk.inj hspawn
    exact ⟨congrArg (Except.mapError LifecycleError.launch) hresult.symm, rfl, rfl⟩
  · next hspawn =>
    obtain ⟨hresult, rfl⟩ := Prod.mk.inj hspawn
    exact ⟨congrArg (Except.mapError LifecycleError.launch) hresult.symm, rfl, rfl⟩

/-- Signalling is one call, whether it succeeds or not. -/
theorem signalGroup_spec (signal : Signal) :
    (s.signalGroup L pid signal).2.tracked = s.tracked ∧
      (s.signalGroup L pid signal).2.calls = .signal pid signal :: s.calls := by
  unfold signalGroup callSignal
  rcases L.signalGroup pid signal s.host with ⟨_ | _, host⟩
  · simp only
    split <;> exact ⟨rfl, rfl⟩
  · exact ⟨rfl, rfl⟩

/-- It fails if the launcher does, unless the process group is gone. -/
theorem signalGroup_cases (signal : Signal) :
    (Reached (s.callSignal L pid signal).1 ∧
      s.signalGroup L pid signal = (.ok (), (s.callSignal L pid signal).2)) ∨
    ∃ cause, (s.callSignal L pid signal).1 = .error cause ∧ cause.isGone = false ∧
      s.signalGroup L pid signal = (.error (.launch cause), (s.callSignal L pid signal).2) := by
  unfold signalGroup
  rcases s.callSignal L pid signal with ⟨cause | _, after⟩
  · by_cases hgone : cause.isGone = true
    · refine .inl ⟨?_, by simp only [hgone, if_true]⟩
      rintro _ ⟨⟩
      exact hgone
    · exact .inr ⟨cause, rfl, Bool.eq_false_iff.mpr hgone, by simp only [hgone, if_false, Bool.false_eq_true]⟩
  · refine .inl ⟨?_, rfl⟩
    rintro _ ⟨⟩

variable {L s pid} in
theorem reached_of_signalGroup {s' : Lifecycle σ} {signal : Signal}
    (h : s.signalGroup L pid signal = (.ok (), s')) : Reached (s.callSignal L pid signal).1 := by
  rcases s.signalGroup_cases L pid signal with ⟨hreached, -⟩ | ⟨cause, -, -, hfailed⟩
  · exact hreached
  · cases hfailed.symm.trans h

variable {L s pid} in
theorem lasting_of_signalGroup {s' : Lifecycle σ} {signal : Signal} {e : LifecycleError}
    (h : s.signalGroup L pid signal = (.error e, s')) :
    ∃ cause, (s.callSignal L pid signal).1 = .error cause ∧ cause.isGone = false := by
  rcases s.signalGroup_cases L pid signal with ⟨-, hsent⟩ | ⟨cause, hcause, hlasting, -⟩
  · cases hsent.symm.trans h
  · exact ⟨cause, hcause, hlasting⟩

/-- Waiting is one call, too. -/
theorem callWait_spec :
    (s.callWait L pid).2.tracked = s.tracked ∧ (s.callWait L pid).2.calls = .wait pid :: s.calls := by
  unfold callWait
  rcases L.wait pid s.host with ⟨_ | _ | _, host⟩ <;> exact ⟨rfl, rfl⟩

theorem collect_spec :
    (s.collect L pid).2.tracked = s.tracked ∧ (s.collect L pid).2.calls = .wait pid :: s.calls := by
  have hwait := s.callWait_spec L pid
  unfold collect
  rcases hcall : s.callWait L pid with ⟨_ | _, s'⟩ <;> rw [hcall] at hwait <;> exact hwait

theorem reap_spec :
    (s.reap L pid).2.tracked = s.tracked ∧ (s.reap L pid).2.calls = .wait pid :: s.calls := by
  have hwait := s.callWait_spec L pid
  unfold reap
  rcases hcall : s.callWait L pid with ⟨_ | _ | _, s'⟩ <;> rw [hcall] at hwait
  · exact hwait
  · simp only
    split <;> exact hwait
  · exact hwait

end Lifecycle

end BatchJob
