import BatchJob.Proofs.Dataset.Streams
import BatchJob.Proofs.Job.SetUp

/-!
# How a set-up fails

A dataset that is not allocated, does not exist or cannot be opened is left unopened, and a set-up does not stumble
over it. A set-up fails only where the path of a dataset cannot be found out, where the system refuses something,
where the invoking account is not known, or where STDENV is there and cannot be read (`OperatingSystem.SetUpFailure`).

Each step is looked at by itself for the failures that it can have (`Preparing.FailsOnly`); a sequence of steps has
those of its steps.

Main statement: `Job.createOn_failed`.
-/

namespace BatchJob

/-! ## What is opened -/

namespace Dataset

variable {d : Dataset} {mode : OpenMode} {fs fs' : FileSystem} {name : String} {path : Option String}

theorem Fresh.faces (h : d.Fresh mode) : d.Faces mode := by
  intro mode' node hstream
  obtain ⟨handle, hhandle, heq⟩ := Option.map_eq_some_iff.mp hstream
  obtain ⟨file, rfl⟩ := h handle hhandle
  cases mode <;> cases heq <;> rfl

/-- A dataset that is not required is opened or left unopened, which is no failure. -/
theorem openAt_optional (e : DatasetError) : openAt fs name path mode false ≠ .error e := by
  unfold openAt
  split
  next => exact nofun
  next =>
    split
    next => exact nofun
    next =>
      rw [if_neg Bool.false_ne_true]
      split <;> exact nofun

theorem openAt_name {lines : List LogLine} (h : openAt fs name path mode false = .ok (d, lines, fs')) :
    d.name = name := by
  unfold openAt at h
  split at h
  next =>
    cases h
    rfl
  next =>
    split at h
    next =>
      cases h
      cases mode <;> rfl
    next =>
      rw [if_neg Bool.false_ne_true] at h
      split at h <;> cases h <;> rfl

end Dataset

/-! ## The failures of each step -/

namespace Preparing

variable {α β : Type} {P : JobError → Prop}

/-- A step of a preparation fails with certain failures only. -/
def FailsOnly (step : Preparing α) (P : JobError → Prop) : Prop :=
  ∀ desk e desk', step.runAt desk = (.error e, desk') → P e

theorem failsOnly_pure (a : α) : FailsOnly (pure a) P := by
  rintro desk e desk' ⟨⟩

/-- Of two steps in a row the second one starts with what the first one gives. -/
theorem FailsOnly.bind {first : Preparing α} {next : α → Preparing β} (h : first.FailsOnly P)
    (hnext : ∀ a desk desk', first.runAt desk = (.ok a, desk') → (next a).FailsOnly P) :
    (first >>= next).FailsOnly P := by
  intro desk e desk' hfailed
  rw [runAt_bind] at hfailed
  rcases hfirst : first.runAt desk with ⟨e' | a, between⟩
  · rw [hfirst] at hfailed
    cases hfailed
    exact h desk e desk' hfirst
  · rw [hfirst] at hfailed
    exact hnext a desk between hfirst between e desk' hfailed

theorem failsOnly_ofExcept {ε : Type} {wrap : ε → JobError} {result : Except ε α}
    (h : ∀ e, result = .error e → P (wrap e)) : FailsOnly (ofExcept wrap result) P := by
  intro desk e desk' hfailed
  cases result with
  | ok => cases hfailed
  | error e =>
    cases hfailed
    exact h e rfl

theorem failsOnly_get : FailsOnly (get : Preparing Desk) P := by
  rintro desk e desk' ⟨⟩

theorem failsOnly_set (desk : Desk) : FailsOnly (set desk : Preparing PUnit) P := by
  rintro _ e desk' ⟨⟩

end Preparing

namespace OperatingSystem

open Preparing

/-- How a set-up can fail. -/
inductive SetUpFailure (system : OperatingSystem) (config : Config) (vars : Variables) : JobError → Prop
  | unresolved {dataset : JobDataset} {error : ConfigError}
      (unresolved : config.datasetPath vars dataset.name = .error error) :
      SetUpFailure system config vars (.resolving dataset.name error)
  | refused {call : SetUpCall} {cause : Errno} (refuses : system.refuses call = some cause) :
      SetUpFailure system config vars (refusal system.user cause call)
  | unknownAccount (unknown : system.account = none) :
      SetUpFailure system config vars (.lookingUpAccount (.unknown system.user))
  | unreadable (cause : IoError) :
      SetUpFailure system config vars (.readingEnvironment (.read JobDataset.stdenv.name cause))

variable {system : OperatingSystem} {config : Config} {vars : Variables} {standardOutput : OpenFile}

theorem failsOnly_ask (call : SetUpCall) : (system.ask call).FailsOnly (system.SetUpFailure config vars) := by
  intro desk e desk' hfailed
  unfold ask at hfailed
  split at hfailed
  next => cases hfailed
  next hrefused =>
    cases hfailed
    exact .refused hrefused

theorem failsOnly_askAll (calls : List SetUpCall) :
    (system.askAll calls).FailsOnly (system.SetUpFailure config vars) := by
  induction calls with
  | nil => exact failsOnly_pure ()
  | cons call calls ih => exact (failsOnly_ask call).bind fun _ _ _ _ => ih

theorem failsOnly_findAccount : system.findAccount.FailsOnly (system.SetUpFailure config vars) := by
  refine (failsOnly_ask _).bind fun _ _ _ _ => ?_
  split
  next => exact failsOnly_pure _
  next hunknown =>
    rintro desk e desk' ⟨⟩
    exact .unknownAccount hunknown

/-- Opening a dataset fails only where its path cannot be found out. -/
theorem failsOnly_openDataset (dataset : JobDataset) (mode : OpenMode) :
    (openDataset config vars dataset mode).FailsOnly (system.SetUpFailure config vars) := by
  refine (failsOnly_ofExcept fun _ unresolved => .unresolved unresolved).bind fun path _ _ _ => ?_
  refine failsOnly_get.bind fun desk _ _ _ => ?_
  refine (failsOnly_ofExcept fun e hfailed => ?_).bind fun _ _ _ _ => ?_
  · exact absurd hfailed (Dataset.openAt_optional e)
  · exact (failsOnly_set _).bind fun _ _ _ _ => failsOnly_pure _

theorem failsOnly_openSystemOutput :
    (system.openSystemOutput config vars standardOutput).FailsOnly (system.SetUpFailure config vars) := by
  refine (failsOnly_openDataset .sysout .write).bind fun dataset _ _ _ => ?_
  split
  next => exact failsOnly_pure _
  next => exact (failsOnly_ask _).bind fun _ _ _ _ => failsOnly_pure _

/-- Reading STDENV fails only with an error of the system, and closing it does not fail. -/
theorem failsOnly_readEnvironment {dataset : Dataset} (name : dataset.name = JobDataset.stdenv.name)
    (h : dataset.Faces .read) :
    (readEnvironment dataset).FailsOnly (system.SetUpFailure config vars) := by
  refine failsOnly_get.bind fun desk _ _ _ => ?_
  obtain ⟨hsame, hfailed⟩ := Dataset.readText_failed h desk.files
  rcases hread : dataset.readText desk.files with ⟨result, dataset', files⟩
  rw [hread] at hsame hfailed
  refine (failsOnly_ofExcept fun e he => ?_).bind fun text _ _ _ => ?_
  · obtain ⟨cause, rfl⟩ := hfailed e he
    rw [name]
    exact .unreadable cause
  · refine (failsOnly_set _).bind fun _ _ _ _ => ?_
    refine (failsOnly_ofExcept fun e he => ?_).bind fun _ _ _ _ => failsOnly_pure _
    exact absurd (h.same hsame) (Dataset.close_failed he).1

/-- **A set-up does not fail for want of a dataset.** -/
theorem failsOnly_setUp (options : RunOptions) (listens : Bool) :
    (system.setUp options config vars listens standardOutput).FailsOnly (system.SetUpFailure config vars) := by
  refine failsOnly_openSystemOutput.bind fun fallback _ _ _ => ?_
  refine (failsOnly_openDataset .stdin .read).bind fun input _ _ _ => ?_
  refine (failsOnly_openDataset .stdout .write).bind fun stdout _ _ _ => ?_
  refine (failsOnly_openDataset .stderr .write).bind fun stderr _ _ _ => ?_
  refine (failsOnly_openDataset .stdenv .read).bind fun stdenv _ _ hstdenv => ?_
  refine (failsOnly_askAll _).bind fun _ _ _ _ => (failsOnly_askAll _).bind fun _ _ _ _ => ?_
  refine failsOnly_findAccount.bind fun account _ _ _ => ?_
  -- STDENV is read as it was opened, or not at all
  obtain ⟨path, lines, hopened⟩ := openDataset_openAt hstdenv
  have hname := Dataset.openAt_name hopened
  have hfaces := (Dataset.openAt_ok hopened).1.faces
  refine (failsOnly_readEnvironment hname hfaces).bind fun text _ _ _ => ?_
  refine (failsOnly_askAll _).bind fun _ _ _ _ => failsOnly_get.bind fun desk _ _ _ => failsOnly_pure _

end OperatingSystem

namespace Job

/-- **Setting a job up does not fail for want of a dataset.** -/
theorem createOn_failed {σ : Type} {system : OperatingSystem} {options : RunOptions} {config : Config}
    {vars : Variables} {listens : Bool} {standardOutput : OpenFile} {files : FileSystem} {host : σ} {e : JobError} {desk : Desk}
    (h : createOn system options config vars listens standardOutput files host = (.error e, desk)) :
    system.SetUpFailure config vars e := by
  unfold createOn at h
  split at h
  next hsetup =>
    cases h
    exact OperatingSystem.failsOnly_setUp options listens _ _ _ hsetup
  next => cases h

end Job

end BatchJob
