import BatchJob.Proofs.Job.Accounting
import BatchJob.Proofs.Job.SetUpFailure
import BatchJob.Proofs.Relay.Sinks

/-!
# A missing dataset is no fault

Whichever of its datasets are missing, a job has from its set-up on the same open sink for each output, until it closes
its datasets. No failure of a job says that a dataset or a pipe was used while it was not open, or a dataset against
its direction (`JobError.isMisuse`).

Other parties have ends of their own of the pipes, and do with them what they want; what they cannot do is to close
those of the relay (`Job.Event.KeepsToEnds`).

Main statement: `absence_harmless`.
-/

namespace BatchJob

/-- Whether a job has failed because a dataset or a pipe was used while it was not open, or a dataset against its
direction. -/
def JobError.isMisuse : JobError → Bool
  | opening _ error | allocatingOutput error | readingEnvironment error | closingEnvironment error
  | closingInput error | closingOutputs error => error.isMisuse
  | relaying error => error.isMisuse
  | _ => false

theorem OperatingSystem.SetUpFailure.isMisuse {system : OperatingSystem} {config : Config} {vars : Variables}
    {e : JobError} (h : system.SetUpFailure config vars e) : e.isMisuse = false := by
  cases h with
  | @refused call => cases call <;> rfl
  | _ => rfl

namespace Job

open Relay

variable {σ : Type} {L : Launcher σ} {input : Dataset} {outputs : OutputRoutes Dataset} {j j' : Job σ}

/-! ## The phases of a job -/

/-- What is known at each phase of a job that began with these datasets. -/
def PhaseUse (input : Dataset) (outputs : OutputRoutes Dataset) (j : Job σ) : Prop :=
  match j.phase with
  | .spawning | .relaying _ => j.relay.UsesProperly input outputs
  | .ending _ e | .awaiting _ e => j.relay.KeepsDatasets input outputs ∧ Mishap input outputs e
  | .reaping _ | .closing _ => j.relay.KeepsDatasets input outputs
  | .over result => ∀ e, result = .error e → e.isMisuse = false

/-- A job that uses its datasets and its pipes as they can be used. -/
structure UsesProperly (input : Dataset) (outputs : OutputRoutes Dataset) (j : Job σ) : Prop where
  phase : PhaseUse input outputs j
  failed : ∀ e, j.relay.outcome = some (.error e) → Mishap input outputs e

/-- The datasets of a job that is not over are those that it began with. -/
theorem PhaseUse.kept (h : PhaseUse input outputs j) (going : j.result? = none) :
    j.relay.KeepsDatasets input outputs := by
  unfold result? at going
  unfold PhaseUse at h
  split at h
  next => exact h.kept
  next => exact h.kept
  next => exact h.1
  next => exact h.1
  next => exact h
  next => exact h
  next hphase =>
    rw [hphase] at going
    cases going

/-- **A step of a job leads to a phase in which everything is used as it can be.** -/
theorem PhaseUse.turn (h : PhaseUse input outputs j) (writable : outputs.Writable) (turn : Turn L j j') :
    PhaseUse input outputs j' := by
  unfold PhaseUse at h
  cases turn with
  | started phase =>
    rw [phase] at h
    exact h
  | notStarted =>
    rintro e ⟨⟩
    rfl
  | relayed phase turn =>
    rw [phase] at h
    unfold PhaseUse
    rw [phase]
    exact h.turn writable turn
  | relayEnded phase =>
    rw [phase] at h
    exact { h.kept with }
  | relayFailed phase outcome =>
    -- the job carries this failure along until it ends with it
    rw [phase] at h
    exact ⟨h.kept, h.failed _ outcome⟩
  | told phase =>
    rw [phase] at h
    exact h
  | notTold phase | awaited phase =>
    rw [phase] at h
    unfold PhaseUse
    rw [(giveUp_spec ..).1]
    rintro e ⟨⟩
    exact h.2.isMisuse
  | reaped phase =>
    rw [phase] at h
    exact h
  | notReaped =>
    rintro e ⟨⟩
    rfl
  | inputNotClosed phase close =>
    -- an input is not written, and closing it has nothing to pass on
    rw [phase] at h
    exact absurd h.reads (Dataset.close_failed (congrArg Prod.fst close)).1
  | outputsNotClosed _ _ closeAll =>
    rintro e ⟨⟩
    obtain ⟨name, cause, rfl⟩ := OutputRoutes.closeAll_failed (congrArg Prod.fst closeAll)
    rfl
  | finished => rintro e ⟨⟩

theorem UsesProperly.turn (h : UsesProperly input outputs j) (writable : outputs.Writable) (turn : Turn L j j') :
    UsesProperly input outputs j' := by
  refine ⟨h.phase.turn writable turn, ?_⟩
  rcases turn.relay_outcome with ⟨pid, hphase, hturn⟩ | hsame
  · have hrelay := h.phase
    unfold PhaseUse at hrelay
    rw [hphase] at hrelay
    exact (hrelay.turn writable hturn).failed
  · rw [hsame]
    exact h.failed

/-! ## What happens around a job -/

/-- What other parties do to the pipes, they do through the ends of their own. -/
def Event.KeepsToEnds : Event σ → Prop
  | .outside change =>
    ∀ s, ∃ actions : List Plumbing.Action, (change s).plumbing = actions.foldl Plumbing.perform s.plumbing
  | .operator _ | .turn => True

/-- Nothing that other parties do makes a difference. -/
theorem PhaseUse.withShared (h : PhaseUse input outputs j) {s : Shared σ} {actions : List Plumbing.Action}
    (acts : s.plumbing = actions.foldl Plumbing.perform j.relay.plumbing) :
    PhaseUse input outputs (j.withShared s) := by
  have hrelay (hu : j.relay.UsesProperly input outputs) : (j.withShared s).relay.UsesProperly input outputs := by
    show Relay.UsesProperly input outputs { j.relay with plumbing := s.plumbing, machine := s.files }
    rw [acts]
    exact hu.outside actions s.files
  have hphase : (j.withShared s).phase = j.phase := rfl
  unfold PhaseUse at h ⊢
  rw [hphase]
  split at h
  next => exact hrelay h
  next => exact hrelay h
  next => exact ⟨{ h.1 with }, h.2⟩
  next => exact ⟨{ h.1 with }, h.2⟩
  next => exact { h with }
  next => exact { h with }
  next => exact h

theorem UsesProperly.advance {L : FileSystem → Launcher σ} (h : UsesProperly input outputs j)
    (writable : outputs.Writable) {e : Event σ} (keeps : e.KeepsToEnds) :
    UsesProperly input outputs (j.advance L e) := by
  cases e with
  | outside change =>
    obtain ⟨actions, hacts⟩ := keeps j.shared
    exact ⟨h.phase.withShared hacts, h.failed⟩
  | operator change => exact ⟨h.phase, h.failed⟩
  | turn =>
    rcases advance_turn L j with hstay | hturn
    · exact hstay.symm ▸ h
    · exact h.turn writable hturn

/-- **A job that was set up uses everything as it can be used, whatever happens around it.** -/
theorem usesProperly_run {L : FileSystem → Launcher σ} {options : RunOptions}
    (prepared : Preparing.Prepared options j.relay) (phase : j.phase = .spawning) {schedule : List (Event σ)}
    (keeps : ∀ e ∈ schedule, e.KeepsToEnds) : UsesProperly j.relay.input j.relay.outputs (j.run L schedule) := by
  have hwritable : j.relay.outputs.Writable := ⟨fun place => (prepared.outputs place).faces, prepared.fallback⟩
  have hkept : j.relay.KeepsDatasets j.relay.input j.relay.outputs :=
    ⟨rfl, prepared.input.faces, .refl _⟩
  have hbooks : InputInv j.relay := by
    rw [prepared.created]
    exact inputInv_create Plumbing.unrelayed_fresh.untaken ..
  have hends : EndsInv j.relay := by
    rw [prepared.created]
    exact endsInv_create Plumbing.unrelayed_fresh.shut ..
  have hrunning : j.relay.outcome = none := by
    rw [prepared.created]
    rfl
  have hfailed (e : RelayError) (failed : j.relay.outcome = some (.error e)) :
      Mishap j.relay.input j.relay.outputs e := by
    cases hrunning.symm.trans failed
  refine run_keeps schedule j (fun e he j' h => h.advance hwritable (keeps e he)) ⟨?_, hfailed⟩
  unfold PhaseUse
  rw [phase]
  exact ⟨hbooks, hends, hkept, hfailed⟩

/-! ## The main statement -/

/-- **The absence of a dataset causes no fault**, whatever the settings and the files are, whatever the system refuses
while the job is set up, and whatever the child and others do to their ends of the pipes and to the files. A set-up
does not fail for want of a dataset (`OperatingSystem.SetUpFailure`). Until a job is over, each channel has the sink
that it had at the start: the same dataset on the same node, open to be written. The relay fails only with an error of
the system on its input or on a sink (`Mishap`). So no failure says that a dataset or a pipe was used while it was not
open, or a dataset against its direction. -/
theorem absence_harmless {L : FileSystem → Launcher σ} (system : OperatingSystem) (options : RunOptions)
    (config : Config) (vars : Variables) (listens : Bool) (standardOutput : OpenFile) (files : FileSystem) (host : σ)
    {schedule : List (Event σ)} (keeps : ∀ e ∈ schedule, e.KeepsToEnds) :
    let created := createOn system options config vars listens standardOutput files host
    (∀ e desk, created = (.error e, desk) → system.SetUpFailure config vars e) ∧
    (∀ j desk, created = (.ok j, desk) →
      let now := j.run L schedule
      (now.result? = none → ∀ channel, OutputRoutes.KeepsSink j.relay.outputs now.relay.outputs channel) ∧
      ∀ e, now.relay.outcome = some (.error e) → Mishap j.relay.input j.relay.outputs e) ∧
    ∀ e, (conduct L system options config vars listens standardOutput files host schedule).result = some (.error e) →
      e.isMisuse = false := by
  intro created
  have hrun {j : Job σ} {desk : Desk} (h : created = (.ok j, desk)) :
      j.relay.outputs.Writable ∧ UsesProperly j.relay.input j.relay.outputs (j.run L schedule) := by
    obtain ⟨-, hcreated⟩ := createOn_ok h
    obtain ⟨hprepared, hphase, -⟩ := create_ok hcreated
    exact ⟨⟨fun place => (hprepared.outputs place).faces, hprepared.fallback⟩, usesProperly_run hprepared hphase keeps⟩
  refine ⟨fun e desk h => createOn_failed h, fun j desk h => ?_, fun e hresult => ?_⟩
  · obtain ⟨hwritable, huses⟩ := hrun h
    exact ⟨fun going channel => (huses.phase.kept going).outputs.keepsSink hwritable channel, huses.failed⟩
  · unfold conduct at hresult
    rcases hcreate : createOn system options config vars listens standardOutput files host with ⟨e' | j, desk⟩
    · rw [hcreate] at hresult
      cases hresult
      exact (createOn_failed hcreate).isMisuse
    · rw [hcreate] at hresult
      have hover := result?_eq_some.mp hresult
      rw [Record.job_run] at hover
      have huse := (hrun hcreate).2.phase
      unfold PhaseUse at huse
      rw [hover] at huse
      exact huse e rfl

/-- The job of `greeting` where the supervisor's standard output cannot be written. -/
def unheard : Job ChildStage :=
  { greeting with
    relay := { greeting.relay with
      outputs := { greeting.relay.outputs with fallback := .ofFile "SYSOUT" ⟨1, 0, .read⟩ .write } } }

/-- No dataset is there, and the one that stands in for SYSOUT cannot be written: it is the sink of both outputs until
the relay fails on it, with an error of the system. -/
theorem absence_harmless_unheard :
    createOn (.granting greeting.account) ⟨["greet"], true, none, .drainToEof, 4⟩ {} ⟨[]⟩ false ⟨1, 0, .read⟩ bareDisk
        .absent = (.ok unheard, { files := bareDisk }) ∧
      (∀ channel, OutputRoutes.KeepsSink unheard.relay.outputs
        (unheard.run (fun _ => stagedLauncher 7 (.signaled .kill)) (strandedByte.take 4)).relay.outputs channel) ∧
      ∃ e, stranded.result = some (.error e) ∧ e.isMisuse = false := by
  have hkeeps : ∀ e ∈ strandedByte, e.KeepsToEnds := by
    intro e hmem
    simp only [strandedByte, List.mem_append, List.mem_cons, List.mem_replicate, List.not_mem_nil, or_false] at hmem
    rcases hmem with ((rfl | rfl) | ⟨-, rfl⟩) | rfl | rfl
    · trivial
    · exact fun s => ⟨[.emit .stdout [104]], rfl⟩
    · trivial
    · exact fun s => ⟨[], rfl⟩
    · trivial
  have hearly : ∀ e ∈ strandedByte.take 4, e.KeepsToEnds := fun e hmem => hkeeps e (List.mem_of_mem_take hmem)
  have hcreated : createOn (.granting greeting.account) ⟨["greet"], true, none, .drainToEof, 4⟩ {} ⟨[]⟩ false
      ⟨1, 0, .read⟩ bareDisk ChildStage.absent = (.ok unheard, { files := bareDisk }) := rfl
  obtain ⟨-, hsinks, -⟩ := absence_harmless (L := fun _ => stagedLauncher 7 (.signaled .kill))
    (.granting greeting.account) ⟨["greet"], true, none, .drainToEof, 4⟩ {} ⟨[]⟩ false ⟨1, 0, .read⟩ bareDisk .absent
    hearly
  obtain ⟨-, -, hresult⟩ := absence_harmless (L := fun _ => stagedLauncher 7 (.signaled .kill))
    (.granting greeting.account) ⟨["greet"], true, none, .drainToEof, 4⟩ {} ⟨[]⟩ false ⟨1, 0, .read⟩ bareDisk .absent
    hkeeps
  change ∀ e, stranded.result = some (.error e) → e.isMisuse = false at hresult
  have hgoing : (unheard.run (fun _ => stagedLauncher 7 (.signaled .kill)) (strandedByte.take 4)).result? = none := by
    rfl
  have hfailed : stranded.result.any (fun result => !result.isOk) = true := by decide +kernel
  obtain ⟨result, hover, hnot⟩ := (Option.any_eq_true ..).mp hfailed
  refine ⟨hcreated, (hsinks unheard _ hcreated).1 hgoing, ?_⟩
  cases result with
  | ok => cases hnot
  | error e => exact ⟨e, hover, hresult e hover⟩

end Job

end BatchJob
