import BatchJob.Job.Basic
import BatchJob.Proofs.ExitRecord

/-!
# The one child of a job

What the main sequence relies on when it starts a child and waits for it (`OneChild`), and what happens around
a job to which no operator gives commands (`Happening`): the child and its descendants act on the plumbing,
the shutdown signal is posted, the child goes on and ends in its own time, the handler for child exits runs,
and other parties change files.

Either the main sequence or the handler collects the child. Whoever does it records the status, so that the
return code of the job is that of the child's status in either case (`OneChild.Accounted.reap`).
-/

namespace BatchJob

/-- How far a child is. -/
inductive ChildStage
  /-- It was not started. -/
  | absent
  | running
  /-- It has ended, and its status was not collected. -/
  | ended
  | collected
  deriving DecidableEq, Repr

/-- What becomes of a child that nobody waits for. -/
inductive ChildStage.Leads : ChildStage → ChildStage → Prop
  | stays (stage : ChildStage) : Leads stage stage
  | ends : Leads .running .ended

/-- A launcher that starts one child, which has a process number and ends with a status. A wait for the child
has to wait as long as it runs; once it has ended, the first wait gives its status, and after that there is no
such child any more. -/
structure OneChild {σ : Type} (L : FileSystem → Launcher σ) where
  pid : Pid
  status : ChildStatus
  /-- How far the child is in a state of the launcher. -/
  stage : σ → ChildStage
  nonzero : pid ≠ 0
  real : status.IsReal
  starts : ∀ fs request host, stage host = .absent →
    ((L fs).spawn request host).1 = .ok pid ∧ stage ((L fs).spawn request host).2 = .running
  runs : ∀ fs host, stage host = .running → (L fs).waitReturns pid host = false
  givesStatus : ∀ fs host, stage host = .ended →
    ((L fs).wait pid host).1 = .ok (some status) ∧ stage ((L fs).wait pid host).2 = .collected
  isGone : ∀ fs host, stage host = .collected →
    ((L fs).wait pid host).1 = .ok none ∧ stage ((L fs).wait pid host).2 = .collected

/-- A launcher whose state is how far its child is. -/
def stagedLauncher (pid : Pid) (status : ChildStatus) : Launcher ChildStage where
  spawn _ _ := (.ok pid, .running)
  signalGroup _ _ stage := (.ok (), stage)
  wait _ stage :=
    match stage with
    | .ended => (.ok (some status), .collected)
    | stage => (.ok none, stage)
  waitReturns _ stage := stage != .running

/-- The child of such a launcher. -/
def OneChild.staged (pid : Pid) (status : ChildStatus) (nonzero : pid ≠ 0) (real : status.IsReal) :
    OneChild fun _ => stagedLauncher pid status where
  pid := pid
  status := status
  stage := id
  nonzero := nonzero
  real := real
  starts _ _ _ _ := ⟨rfl, rfl⟩
  runs := by
    rintro _ _ ⟨⟩
    rfl
  givesStatus := by
    rintro _ _ ⟨⟩
    exact ⟨rfl, rfl⟩
  isGone := by
    rintro _ _ ⟨⟩
    exact ⟨rfl, rfl⟩

/-- What happens next around a job to which no operator gives commands. -/
inductive Happening {σ : Type} (stage : σ → ChildStage)
  /-- The child or a descendant acts on the plumbing, or the shutdown signal is posted. -/
  | act (action : Plumbing.Action)
  /-- The launcher's state changes by itself, as when the child ends. -/
  | pass (change : σ → σ) (leads : ∀ host, (stage host).Leads (stage (change host)))
  /-- The handler for child exits runs. -/
  | handle
  /-- Somebody changes files. -/
  | files (change : FileSystem → FileSystem)
  /-- The main sequence takes a step, if it can. -/
  | turn

namespace OneChild

variable {σ : Type} {L : FileSystem → Launcher σ} (child : OneChild L)

/-- What the handler for child exits does: it collects the child if it has ended, and records the status. -/
def handle (s : Job.Shared σ) : Job.Shared σ :=
  if child.stage s.host = .ended then
    match (L s.files).wait child.pid s.host with
    | (.ok (some status), host) => { s with host, exits := s.exits.record child.pid status }
    | (_, host) => { s with host }
  else s

/-- What happens as an event of the job. -/
def event : Happening child.stage → Job.Event σ
  | .act action => .outside fun s => { s with plumbing := s.plumbing.perform action }
  | .pass change _ => .outside fun s => { s with host := change s.host }
  | .handle => .outside child.handle
  | .files change => .outside fun s => { s with files := change s.files }
  | .turn => .turn

/-- The job after a schedule of happenings. -/
def play (j : Job σ) (schedule : List (Happening child.stage)) : Job σ :=
  j.run L (schedule.map child.event)

/-! ## The account of the child -/

/-- The child was started, and once it was collected its status is on record. -/
structure Accounted (host : σ) (exits : ExitRecord) : Prop where
  started : child.stage host ≠ .absent
  recorded : child.stage host = .collected → exits.lookup child.pid = some child.status

variable {child}

/-- Of a running child nothing is on record yet. -/
theorem Accounted.of_running {host : σ} {exits : ExitRecord} (h : child.stage host = .running) :
    child.Accounted host exits :=
  ⟨by rw [h]; nofun, by rw [h]; nofun⟩

/-- A child that nobody waits for stays accounted for. -/
theorem Accounted.pass {host : σ} {exits : ExitRecord} (h : child.Accounted host exits) {change : σ → σ}
    (leads : (child.stage host).Leads (child.stage (change host))) : child.Accounted (change host) exits := by
  have hsame : child.stage (change host) = child.stage host ∨ child.stage (change host) = .ended := by
    generalize child.stage (change host) = after at leads ⊢
    generalize child.stage host = before at leads ⊢
    cases leads with
    | stays => exact .inl rfl
    | ends => exact .inr rfl
  rcases hsame with hsame | hended
  · exact ⟨by rw [hsame]; exact h.started, by rw [hsame]; exact h.recorded⟩
  · exact ⟨by rw [hended]; nofun, by rw [hended]; nofun⟩

/-- The handler records what it collects. -/
theorem Accounted.handle {s : Job.Shared σ} (h : child.Accounted s.host s.exits) :
    child.Accounted (child.handle s).host (child.handle s).exits := by
  unfold OneChild.handle
  split
  next hended =>
    obtain ⟨hstatus, hstage⟩ := child.givesStatus s.files s.host hended
    rcases hwait : (L s.files).wait child.pid s.host with ⟨result, host⟩
    rw [hwait] at hstatus hstage
    cases hstatus
    refine ⟨?_, fun _ => s.exits.lookup_record child.nonzero child.real⟩
    show child.stage host ≠ .absent
    rw [hstage]
    nofun
  next => exact h

/-- The handler touches neither the plumbing nor the files. -/
theorem handle_frame (s : Job.Shared σ) :
    (child.handle s).plumbing = s.plumbing ∧ (child.handle s).files = s.files := by
  unfold OneChild.handle
  split
  next => split <;> exact ⟨rfl, rfl⟩
  next => exact ⟨rfl, rfl⟩

/-- The handler does not start a child. -/
theorem stage_handle_of_absent {s : Job.Shared σ} (h : child.stage s.host = .absent) :
    child.stage (child.handle s).host = .absent := by
  unfold OneChild.handle
  rw [if_neg (by rw [h]; nofun)]
  exact h

/-- A launcher's state that changes by itself starts no child. -/
theorem stage_pass_of_absent {host : σ} {change : σ → σ}
    (leads : (child.stage host).Leads (child.stage (change host))) (h : child.stage host = .absent) :
    child.stage (change host) = .absent := by
  rw [h] at leads
  generalize child.stage (change host) = after at leads ⊢
  cases leads
  rfl

/-- **Collecting the child gives the return code of its status, whoever has collected it first.** -/
theorem Accounted.reap {s : Lifecycle σ} (h : child.Accounted s.host s.exits) (fs : FileSystem)
    (returns : (L fs).waitReturns child.pid s.host = true) :
    (s.reap (L fs) child.pid).1 = .ok child.status.returnCode := by
  cases hstage : child.stage s.host with
  | absent => exact absurd hstage h.started
  | running => cases (child.runs fs s.host hstage).symm.trans returns
  | ended =>
    obtain ⟨hstatus, -⟩ := child.givesStatus fs s.host hstage
    unfold Lifecycle.reap Lifecycle.callWait
    rcases hwait : (L fs).wait child.pid s.host with ⟨result, host⟩
    rw [hwait] at hstatus
    cases hstatus
    rfl
  | collected =>
    -- the handler was first, and its record gives the status
    obtain ⟨hgone, -⟩ := child.isGone fs s.host hstage
    unfold Lifecycle.reap Lifecycle.callWait
    rcases hwait : (L fs).wait child.pid s.host with ⟨result, host⟩
    rw [hwait] at hgone
    cases hgone
    simp only
    rw [h.recorded hstage]

theorem callSpawn_ok {s : Lifecycle σ} (absent : child.stage s.host = .absent) (fs : FileSystem)
    (request : SpawnRequest) :
    (s.callSpawn (L fs) request).1 = .ok child.pid ∧
      child.stage (s.callSpawn (L fs) request).2.host = .running :=
  child.starts fs request s.host absent

/-- A child that was not started before is running after its start. -/
theorem spawn_ok {s : Lifecycle σ} (absent : child.stage s.host = .absent) (fs : FileSystem) (program : List String)
    (account : Account) (environment : Environment) : ∃ s', child.stage s'.host = .running ∧
      s.spawn (L fs) program account environment = (.ok child.pid, s') := by
  -- a warning about the environment goes to the log only
  have hwarned : ∀ (entries : List String) (s : Lifecycle σ), (entries.foldl
      (fun s entry => s.logged .warn ("Ignoring environment entry without '=': " ++ entry)) s).host = s.host := by
    intro entries
    induction entries with
    | nil => exact fun _ => rfl
    | cons entry entries ih => exact fun s => ih _
  unfold Lifecycle.spawn
  simp only
  generalize hw : environment.malformed.foldl _ s = warned
  have habsent : child.stage warned.host = .absent := by
    rw [← hw, hwarned]
    exact absent
  generalize SpawnRequest.mk _ _ _ _ = request
  obtain ⟨hpid, hstage⟩ := callSpawn_ok habsent fs request
  rcases hcall : warned.callSpawn (L fs) request with ⟨result, s'⟩
  rw [hcall] at hpid hstage
  cases hpid
  exact ⟨{ s' with tracked := child.pid }, hstage, rfl⟩

end OneChild

end BatchJob
