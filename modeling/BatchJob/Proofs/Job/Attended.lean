import BatchJob.Proofs.Job.Delivery
import BatchJob.Proofs.Lifecycle.Calls

/-!
# Which STOP reaches the child

A STOP ends the child that is tracked when the listener looks it up. So one that is served before the child is tracked
is answered with a warning and ends nothing, and it is not kept for later (`early_stop_is_lost`). Every other one
signals the child, however its steps and those of the main sequence are interleaved: a child stays tracked once it is,
and the listener signals what it has looked up before it goes on.

Main statement: `stop_reaches_tracked`.
-/

namespace BatchJob

variable {σ : Type}

/-! ## What stays while a job goes on -/

namespace Lifecycle

/-- A tracked child stays tracked, and calls stay made. -/
structure Leads (s s' : Lifecycle σ) : Prop where
  tracked : s.tracked ≠ 0 → s'.tracked = s.tracked
  calls : ∀ call ∈ s.calls, call ∈ s'.calls

/-- The child is tracked. -/
def Tracks (s : Lifecycle σ) (pid : Pid) : Prop :=
  s.tracked = pid ∧ pid ≠ 0

/-- The child is tracked, and its process group was told to end. -/
def Told (s : Lifecycle σ) (pid : Pid) : Prop :=
  s.Tracks pid ∧ .signal pid .term ∈ s.calls

/-- No process group was signalled. -/
def Quiet (s : Lifecycle σ) : Prop :=
  ∀ group signal, .signal group signal ∉ s.calls

variable {s s' : Lifecycle σ} {pid : Pid}

/-- An operation that makes one call at most. -/
theorem Leads.of_calls (tracked : s'.tracked = s.tracked)
    (calls : s'.calls = s.calls ∨ ∃ call, s'.calls = call :: s.calls) : s.Leads s' := by
  refine ⟨fun _ => tracked, fun call hmem => ?_⟩
  rcases calls with hsame | ⟨new, hnew⟩
  · rwa [hsame]
  · rw [hnew]
    exact List.mem_cons_of_mem new hmem

theorem Tracks.mono (h : s.Tracks pid) (leads : s.Leads s') : s'.Tracks pid := by
  obtain ⟨htracked, hnonzero⟩ := h
  refine ⟨(leads.tracked ?_).trans htracked, hnonzero⟩
  rwa [htracked]

theorem Tracks.absurd {p : Prop} (h : s.Tracks pid) (untracked : s.tracked = 0) : p :=
  (h.2 (h.1.symm.trans untracked)).elim

theorem Told.mono (h : s.Told pid) (leads : s.Leads s') : s'.Told pid :=
  ⟨h.1.mono leads, leads.calls _ h.2⟩

/-- A tracked child is found. -/
theorem child_eq (tracked : s.tracked ≠ 0) : s.child = some s.tracked :=
  if_neg tracked

theorem tracks_of_child (h : s.child = some pid) : s.Tracks pid := by
  unfold child at h
  split at h
  next => cases h
  next hnonzero =>
    cases h
    exact ⟨rfl, hnonzero⟩

/-- A call that is no signal keeps quiet. -/
theorem Quiet.of_calls (h : s.Quiet) {call : LaunchCall} (calls : s'.calls = call :: s.calls)
    (nosignal : ∀ group signal, call ≠ .signal group signal) : s'.Quiet := by
  intro group signal hmem
  rw [calls] at hmem
  rcases List.mem_cons.mp hmem with heq | hmem
  · exact nosignal group signal heq.symm
  · exact h group signal hmem

/-- What an operation does that starts no child: it makes one call at most. -/
structure CallsOnce (s s' : Lifecycle σ) : Prop where
  tracked : s'.tracked = s.tracked
  calls : s'.calls = s.calls ∨ ∃ call, s'.calls = call :: s.calls

theorem CallsOnce.leads (h : s.CallsOnce s') : s.Leads s' :=
  .of_calls h.tracked h.calls

end Lifecycle

namespace Console.Attendant

/-- What is known about a STOP, stage by stage. -/
def Knows (s : Lifecycle σ) : StopStage → Prop
  | .lookingUp | .refusing => True
  | .signalling pid => s.Tracks pid
  | .collecting pid => s.Told pid

theorem Knows.mono {s s' : Lifecycle σ} {stage : StopStage} (h : Knows s stage) (leads : s.Leads s') :
    Knows s' stage := by
  cases stage with
  | lookingUp | refusing => trivial
  | signalling pid => exact Lifecycle.Tracks.mono h leads
  | collecting pid => exact Lifecycle.Told.mono h leads

/-- What is known about a listener. -/
structure Sound (t : Attendant) (s : Lifecycle σ) : Prop where
  stop : ∀ stage, t.stop = some stage → Knows s stage
  served : ∀ pid, .stop (some pid) ∈ t.served → s.Told pid

variable {L : Launcher σ} {t t' : Attendant} {s s' : Lifecycle σ}

theorem Sound.mono (h : t.Sound s) (leads : s.Leads s') : t.Sound s' :=
  ⟨fun stage hstage => (h.stop stage hstage).mono leads, fun pid hmem => (h.served pid hmem).mono leads⟩

/-- A STOP that was served to its end has told the child that it found. -/
theorem Sound.stopped (h : t.Sound s) {found : Option Pid} (told : ∀ pid, found = some pid → s.Told pid) :
    (t.stopped found).Sound s := by
  refine ⟨nofun, fun pid hmem => ?_⟩
  rcases List.mem_cons.mp hmem with heq | hmem
  · cases heq
    exact told pid rfl
  · exact h.served pid hmem

/-- What the listener does with a reply touches the log only. -/
theorem hear_spec (t : Attendant) (s : Lifecycle σ) (reply : Reply) :
    (t.hear L s reply).2.tracked = s.tracked ∧ (t.hear L s reply).2.calls = s.calls := by
  rcases reply with e | (_ | _ | _)
  · cases e <;> exact ⟨rfl, rfl⟩
  all_goals exact ⟨rfl, rfl⟩

theorem Sound.hear (h : t.Sound s) (reply : Reply) :
    (t.hear L s reply).1.Sound (t.hear L s reply).2 := by
  have hspec := t.hear_spec (L := L) s reply
  have hleads : s.Leads (t.hear L s reply).2 := .of_calls hspec.1 (.inl hspec.2)
  refine Sound.mono ?_ hleads
  rcases reply with e | (_ | _ | _)
  · exact ⟨h.stop, h.served⟩
  · refine ⟨?_, h.served⟩
    rintro stage ⟨⟩
    trivial
  all_goals
    refine ⟨h.stop, fun pid hmem => ?_⟩
    rcases List.mem_cons.mp hmem with heq | hmem
    · cases heq
    · exact h.served pid hmem

/-- A step of a STOP makes no call while no child is tracked. -/
theorem step?_spec (h : t.Sound s) (hstep : t.step? L s = some (t', s')) :
    t'.Sound s' ∧ s.CallsOnce s' ∧ (s.tracked = 0 → s'.calls = s.calls) := by
  unfold step? at hstep
  split at hstep
  next => cases hstep
  next =>
    split at hstep <;> cases hstep
    next =>
      refine ⟨⟨?_, h.served⟩, ⟨rfl, .inl rfl⟩, fun _ => rfl⟩
      rintro stage ⟨⟩
      trivial
    next pid hchild =>
      refine ⟨⟨?_, h.served⟩, ⟨rfl, .inl rfl⟩, fun _ => rfl⟩
      rintro stage ⟨⟩
      exact Lifecycle.tracks_of_child hchild
  next =>
    cases hstep
    have hstopped : (t.stopped none).Sound s := h.stopped fun _ => nofun
    exact ⟨hstopped.mono (.of_calls rfl (.inl rfl)), ⟨rfl, .inl rfl⟩, fun _ => rfl⟩
  next pid hstage =>
    have htracks : s.Tracks pid := h.stop _ hstage
    obtain ⟨htracked, hcalls⟩ := s.signalGroup_spec L pid .term
    rcases hcall : s.signalGroup L pid .term with ⟨result, after⟩
    rw [hcall] at htracked hcalls hstep
    have hleads : s.Leads after := .of_calls htracked (.inr ⟨_, hcalls⟩)
    -- the call is made, whether it succeeds or not
    have htold : after.Told pid := ⟨htracks.mono hleads, by rw [hcalls]; exact List.mem_cons_self⟩
    cases result with
    | ok =>
      cases hstep
      refine ⟨⟨?_, (h.mono hleads).served⟩, ⟨htracked, .inr ⟨_, hcalls⟩⟩, htracks.absurd⟩
      rintro stage ⟨⟩
      exact htold
    | error e =>
      cases hstep
      refine ⟨((h.mono hleads).stopped ?_).mono (.of_calls rfl (.inl rfl)),
        ⟨htracked, .inr ⟨_, hcalls⟩⟩, htracks.absurd⟩
      rintro _ ⟨⟩
      exact htold
  next pid hstage =>
    have htold : s.Told pid := h.stop _ hstage
    split at hstep
    next =>
      obtain ⟨htracked, hcalls⟩ := s.collect_spec L pid
      rcases hcall : s.collect L pid with ⟨result, after⟩
      rw [hcall] at htracked hcalls hstep
      have hleads : s.Leads after := .of_calls htracked (.inr ⟨_, hcalls⟩)
      have hstopped : (t.stopped (some pid)).Sound after := by
        refine (h.mono hleads).stopped ?_
        rintro _ ⟨⟩
        exact htold.mono hleads
      cases result with
      | ok =>
        cases hstep
        exact ⟨hstopped, ⟨htracked, .inr ⟨_, hcalls⟩⟩, htold.1.absurd⟩
      | error e =>
        cases hstep
        exact ⟨hstopped.mono (.of_calls rfl (.inl rfl)), ⟨htracked, .inr ⟨_, hcalls⟩⟩, htold.1.absurd⟩
    next => cases hstep

/-- While a child is tracked, no step of a STOP misses it. -/
theorem misses_step? (tracked : s.tracked ≠ 0) (hstep : t.step? L s = some (t', s')) : t'.misses = t.misses := by
  unfold step? at hstep
  split at hstep
  next => cases hstep
  next hstage =>
    rw [Lifecycle.child_eq tracked] at hstep
    cases hstep
    unfold misses
    simp [hstage]
  next hstage =>
    cases hstep
    unfold misses stopped
    simp [hstage]
  next pid hstage =>
    split at hstep <;> cases hstep <;>
    · unfold misses
      simp [stopped, hstage]
  next pid hstage =>
    split at hstep
    next =>
      split at hstep <;> cases hstep <;>
      · unfold misses
        simp [stopped, hstage]
    next => cases hstep

/-- Nor does taking a reply. -/
theorem misses_hear (t : Attendant) (s : Lifecycle σ) (idle : t.stop = none) (reply : Reply) :
    (t.hear L s reply).1.misses = t.misses := by
  unfold misses
  rcases reply with e | (_ | _ | _) <;> simp [hear, idle]

end Console.Attendant

/-! ## The main sequence -/

namespace JobPhase

/-- The child that the main sequence is dealing with. -/
def child? : JobPhase → Option Pid
  | .relaying pid | .ending pid _ | .awaiting pid _ | .reaping pid => some pid
  | .spawning | .closing _ | .over _ => none

end JobPhase

namespace Job

variable {L : Launcher σ} {j j' : Job σ}

/-- Once the child was started, a step deals with no other child. -/
theorem Turn.deals (h : Turn L j j') (started : j.phase ≠ .spawning) :
    j'.phase ≠ .spawning ∧ (∀ pid, j'.phase.child? = some pid → j.phase.child? = some pid) ∧
      j.lifecycle.CallsOnce j'.lifecycle := by
  cases h with
  | started phase | notStarted phase => exact absurd phase started
  | relayed phase => exact ⟨started, fun pid hpid => hpid, ⟨rfl, .inl rfl⟩⟩
  | relayEnded phase | relayFailed phase =>
    refine ⟨nofun, ?_, ⟨rfl, .inl rfl⟩⟩
    rintro _ ⟨⟩
    rw [phase]
    rfl
  | @told pid _ s phase signal =>
    obtain ⟨htracked, hcalls⟩ := j.lifecycle.signalGroup_spec L pid .term
    rw [signal] at htracked hcalls
    refine ⟨nofun, ?_, ⟨htracked, .inr ⟨_, hcalls⟩⟩⟩
    rintro _ ⟨⟩
    exact congrArg JobPhase.child? phase
  | @notTold pid e cause s phase signal =>
    obtain ⟨htracked, hcalls⟩ := j.lifecycle.signalGroup_spec L pid .term
    obtain ⟨hphase, hkept, hmade⟩ := giveUp_spec { j with lifecycle := s } pid e (.error cause)
    rw [signal] at htracked hcalls
    rw [hphase]
    exact ⟨nofun, fun _ => nofun, ⟨hkept.trans htracked, .inr ⟨_, hmade.trans hcalls⟩⟩⟩
  | @awaited pid e ended s phase _ collect =>
    obtain ⟨htracked, hcalls⟩ := j.lifecycle.collect_spec L pid
    obtain ⟨hphase, hkept, hmade⟩ := giveUp_spec { j with lifecycle := s } pid e ended
    rw [collect] at htracked hcalls
    rw [hphase]
    exact ⟨nofun, fun _ => nofun, ⟨hkept.trans htracked, .inr ⟨_, hmade.trans hcalls⟩⟩⟩
  | @reaped pid _ s phase _ reap | @notReaped pid _ s phase _ reap =>
    obtain ⟨htracked, hcalls⟩ := j.lifecycle.reap_spec L pid
    rw [reap] at htracked hcalls
    exact ⟨nofun, fun _ => nofun, ⟨htracked, .inr ⟨_, hcalls⟩⟩⟩
  | inputNotClosed | outputsNotClosed | finished => exact ⟨nofun, fun _ => nofun, ⟨rfl, .inl rfl⟩⟩

end Job

/-! ## A job with its listener -/

namespace Attended

open Console (Attendant)

variable {L : FileSystem → Launcher σ} {a : Attended σ}

/-- The two steps of a start in a row start the child. -/
theorem run_main_main (phase : a.job.phase = .spawning) (untracked : a.untracked = none) :
    (a.run L [.main, .main]).job = a.job.start (L a.job.relay.machine) := by
  show ((a.mainStep L).mainStep L).job = _
  unfold Job.start
  rw [Lifecycle.spawn_eq]
  rcases hlaunch : a.job.lifecycle.launch (L a.job.relay.machine) a.job.program a.job.account a.job.environment with
    ⟨e | pid, s⟩
  · have hfirst : a.mainStep L = { a with job := { a.job with lifecycle := s }.fail (.spawning (.launch e)) } := by
      unfold mainStep
      simp only [phase, untracked, hlaunch]
    rw [hfirst]
    rfl
  · have hfirst : a.mainStep L = { a with job := { a.job with lifecycle := s }, untracked := some pid } := by
      unfold mainStep
      simp only [phase, untracked, hlaunch]
    rw [hfirst]
    unfold mainStep
    simp only [phase]

/-- A STOP that nobody comes between is served as the listener serves it, if a wait returns. -/
theorem run_stop (listening : a.listener.isOver = false) (idle : a.listener.stop = none)
    (returns : ∀ pid host, (L a.job.relay.machine).waitReturns pid host = true) :
    (a.run L [.hear (.ok .stop), .listener, .listener, .listener]).job.lifecycle =
      Console.serve (L a.job.relay.machine) a.job.lifecycle .stop := by
  obtain ⟨j, untracked, ⟨stop, served, isOver⟩⟩ := a
  cases listening
  cases idle
  unfold Console.serve Lifecycle.requestEnd Lifecycle.terminate
  simp only [run, List.foldl_cons, List.foldl_nil, advance, Attendant.hear, Attendant.step?, Bool.false_or,
    Option.isSome_none, Bool.false_eq_true, if_false]
  rcases hchild : (j.lifecycle.logged .info Console.stopReceived).child with _ | pid
  · rfl
  · simp only
    rcases hsignal : (j.lifecycle.logged .info Console.stopReceived).signalGroup (L j.relay.machine) pid .term with
      ⟨_ | _, s⟩
    · rfl
    · simp only [returns, if_true]
      rcases hcollect : s.collect (L j.relay.machine) pid with ⟨_ | _, s'⟩ <;> rfl

/-! ### The invariant -/

/-- What is known at every point of a run. -/
structure Sound (a : Attended σ) : Prop where
  untracked : a.job.phase = .spawning → a.job.lifecycle.tracked = 0
  /-- Before the child is tracked nobody is signalled. -/
  quiet : a.job.phase = .spawning → a.job.lifecycle.Quiet
  /-- The child that the main sequence deals with is the one that is tracked. -/
  child : ∀ pid, a.job.phase.child? = some pid → a.job.lifecycle.tracked = pid
  listener : a.listener.Sound a.job.lifecycle

/-- What an event keeps, and so a run. -/
structure Keeps (a a' : Attended σ) : Prop where
  sound : a'.Sound
  leads : a.job.lifecycle.Leads a'.job.lifecycle
  /-- While a child is tracked, no STOP misses it. -/
  misses : a.job.lifecycle.tracked ≠ 0 → a'.listener.misses = a.listener.misses

theorem Keeps.trans {a' a'' : Attended σ} (first : a.Keeps a') (second : a'.Keeps a'') : a.Keeps a'' := by
  have hleads : a.job.lifecycle.Leads a''.job.lifecycle := by
    refine ⟨fun htracked => ?_, fun call hmem => second.leads.calls call (first.leads.calls call hmem)⟩
    have hkept := first.leads.tracked htracked
    exact (second.leads.tracked (hkept ▸ htracked)).trans hkept
  refine ⟨second.sound, hleads, fun htracked => ?_⟩
  have hkept := first.leads.tracked htracked
  exact (second.misses (hkept ▸ htracked)).trans (first.misses htracked)

namespace Sound

theorem keeps_self (h : a.Sound) : a.Keeps a :=
  ⟨h, .of_calls rfl (.inl rfl), fun _ => rfl⟩

theorem keeps_outside (h : a.Sound) (change : Job.Shared σ → Job.Shared σ) :
    a.Keeps (a.advance L (.outside change)) := by
  have hleads : a.job.lifecycle.Leads (a.advance L (.outside change)).job.lifecycle := .of_calls rfl (.inl rfl)
  exact ⟨⟨h.untracked, h.quiet, h.child, h.listener.mono hleads⟩, hleads, fun _ => rfl⟩

/-- What the listener does changes neither the phase of the job nor the tracked child. -/
theorem beside (h : a.Sound) {listener : Attendant} {lifecycle : Lifecycle σ}
    (tracked : lifecycle.tracked = a.job.lifecycle.tracked)
    (uncalled : a.job.lifecycle.tracked = 0 → lifecycle.calls = a.job.lifecycle.calls)
    (sound : listener.Sound lifecycle) : Sound { a with listener, job := { a.job with lifecycle } } where
  untracked := fun hphase => tracked.trans (h.untracked hphase)
  quiet := by
    intro hphase group signal
    rw [uncalled (h.untracked hphase)]
    exact h.quiet hphase group signal
  child := fun pid hpid => tracked.trans (h.child pid hpid)
  listener := sound

theorem keeps_hear (h : a.Sound) (reply : Console.Reply) : a.Keeps (a.advance L (.hear reply)) := by
  obtain ⟨htracked, hcalls⟩ := a.listener.hear_spec (L := L a.job.relay.machine) a.job.lifecycle reply
  have hlistener := h.listener.hear (L := L a.job.relay.machine) reply
  unfold advance
  simp only
  split
  next => exact h.keeps_self
  next hfree =>
    have hidle : a.listener.stop = none := by
      rw [Bool.or_eq_true, not_or, Option.isSome_iff_ne_none, Decidable.not_not] at hfree
      exact hfree.2
    exact ⟨h.beside htracked (fun _ => hcalls) hlistener, .of_calls htracked (.inl hcalls),
      fun _ => Attendant.misses_hear _ _ hidle reply⟩

theorem keeps_listener (h : a.Sound) : a.Keeps (a.advance L .listener) := by
  unfold advance
  simp only
  split
  next listener lifecycle hstep =>
    obtain ⟨hlistener, hcalls, huncalled⟩ := Attendant.step?_spec h.listener hstep
    exact ⟨h.beside hcalls.tracked huncalled hlistener, hcalls.leads,
      fun htracked => Attendant.misses_step? htracked hstep⟩
  next => exact h.keeps_self

/-- The first step of a start: the child runs, and nobody is tracked yet. -/
theorem keeps_launch (h : a.Sound) (phase : a.job.phase = .spawning) (untracked : a.untracked = none) :
    a.Keeps (a.mainStep L) := by
  obtain ⟨htracked, request, hcalls⟩ :=
    a.job.lifecycle.launch_spec (L a.job.relay.machine) a.job.program a.job.account a.job.environment
  unfold mainStep
  simp only [phase, untracked]
  rcases hlaunch : a.job.lifecycle.launch (L a.job.relay.machine) a.job.program a.job.account a.job.environment with
    ⟨result, s⟩
  rw [hlaunch] at htracked hcalls
  have hleads : a.job.lifecycle.Leads s := .of_calls htracked (.inr ⟨_, hcalls⟩)
  cases result with
  | ok pid =>
    have hquiet : s.Quiet := (h.quiet phase).of_calls hcalls (fun _ _ => nofun)
    exact ⟨⟨fun _ => htracked.trans (h.untracked phase), fun _ => hquiet, fun _ => nofun, h.listener.mono hleads⟩,
      hleads, fun _ => rfl⟩
  | error e =>
    have hfailed : a.job.lifecycle.Leads ({ a.job with lifecycle := s }.fail (.spawning (.launch e))).lifecycle :=
      .of_calls htracked (.inr ⟨_, hcalls⟩)
    exact ⟨⟨nofun, nofun, fun _ => nofun, h.listener.mono hfailed⟩, hfailed, fun _ => rfl⟩

/-- The second step of a start: the child is tracked. -/
theorem keeps_track (h : a.Sound) {pid : Pid} (phase : a.job.phase = .spawning) (untracked : a.untracked = some pid) :
    a.Keeps (a.mainStep L) := by
  have hleads : a.job.lifecycle.Leads (a.job.lifecycle.track pid) :=
    ⟨fun htracked => absurd (h.untracked phase) htracked, fun _ hmem => hmem⟩
  unfold mainStep
  simp only [phase, untracked]
  refine ⟨⟨nofun, nofun, ?_, h.listener.mono hleads⟩, hleads, fun _ => rfl⟩
  rintro _ ⟨⟩
  rfl

/-- The steps after the start. -/
theorem keeps_turn (h : a.Sound) (started : a.job.phase ≠ .spawning) : a.Keeps (a.mainStep L) := by
  have hstep : a.mainStep L = { a with job := a.job.advance L .turn } := by
    unfold mainStep
    simp only
    split
    next hphase _ => exact absurd hphase started
    next hphase _ => exact absurd hphase started
    next => rfl
  rw [hstep]
  rcases Job.advance_turn L a.job with hsame | hturn
  · rw [hsame]
    exact h.keeps_self
  · obtain ⟨hstarted, hchild, hcalls⟩ := hturn.deals started
    refine ⟨⟨fun hphase => absurd hphase hstarted, fun hphase => absurd hphase hstarted, fun pid hpid => ?_,
      h.listener.mono hcalls.leads⟩, hcalls.leads, fun _ => rfl⟩
    exact hcalls.tracked.trans (h.child pid (hchild pid hpid))

/-- Whatever happens next. -/
theorem keeps_advance (h : a.Sound) (e : Event σ) : a.Keeps (a.advance L e) := by
  cases e with
  | outside change => exact h.keeps_outside change
  | hear reply => exact h.keeps_hear reply
  | listener => exact h.keeps_listener
  | main =>
    show a.Keeps (a.mainStep L)
    by_cases hphase : a.job.phase = .spawning
    · cases huntracked : a.untracked with
      | none => exact h.keeps_launch hphase huntracked
      | some pid => exact h.keeps_track hphase huntracked
    · exact h.keeps_turn hphase

/-- A whole run. -/
theorem keeps_run (h : a.Sound) (schedule : List (Event σ)) : a.Keeps (a.run L schedule) := by
  induction schedule generalizing a with
  | nil => exact h.keeps_self
  | cons e schedule ih =>
    have hfirst := h.keeps_advance (L := L) e
    exact hfirst.trans (ih hfirst.sound)

/-- A job that is about to start, and a listener that has heard nothing. -/
theorem start {j : Job σ} (phase : j.phase = .spawning) (untracked : j.lifecycle.tracked = 0)
    (uncalled : j.lifecycle.calls = []) : Sound { job := j } := by
  refine ⟨fun _ => untracked, fun _ group signal hmem => ?_, fun pid hpid => ?_, ⟨fun _ => nofun, fun _ => nofun⟩⟩
  · rw [uncalled] at hmem
    cases hmem
  · rw [phase] at hpid
    cases hpid

end Sound

/-! ## The main statement -/

/-- **Every STOP that was served to its end and found the tracked child has signalled its process group**, however the
steps of the listener and of the main sequence are interleaved, whatever other parties do, and however the launcher
behaves. The child that the main sequence deals with is the tracked one. Once it is tracked it stays so, and no STOP
misses it any more; before that a STOP finds no child, and nobody is signalled. -/
theorem stop_reaches_tracked {L : FileSystem → Launcher σ} {options : RunOptions} {config : Config} {vars : Variables}
    {account : Account} {standardOutput : OpenFile} {files : FileSystem} {host : σ} {j : Job σ} {desk : Desk}
    (created : Job.create options config vars account standardOutput files host = (.ok j, desk))
    (early late : List (Event σ)) :
    let before := ({ job := j } : Attended σ).run L early
    let after := before.run L late
    (∀ pid, .stop (some pid) ∈ after.listener.served →
      after.job.lifecycle.tracked = pid ∧ .signal pid .term ∈ after.job.lifecycle.calls) ∧
    (∀ pid, after.job.phase.child? = some pid → after.job.lifecycle.tracked = pid) ∧
    (before.job.lifecycle.tracked ≠ 0 → after.job.lifecycle.tracked = before.job.lifecycle.tracked ∧
      after.listener.misses = before.listener.misses) ∧
    (after.job.phase = .spawning → after.job.lifecycle.child = none ∧
      ∀ group signal, .signal group signal ∉ after.job.lifecycle.calls) := by
  intro before after
  obtain ⟨-, hphase, hlifecycle⟩ := Job.create_ok created
  have hstart : Sound { job := j } := .start hphase (by rw [hlifecycle]) (by rw [hlifecycle])
  have hbefore : before.Sound := (hstart.keeps_run early).sound
  have hafter : before.Keeps after := hbefore.keeps_run late
  refine ⟨fun pid hmem => ?_, hafter.sound.child, fun htracked => ⟨hafter.leads.tracked htracked, ?_⟩,
    fun hspawning => ⟨if_pos (hafter.sound.untracked hspawning), hafter.sound.quiet hspawning⟩⟩
  · obtain ⟨htracks, htold⟩ := hafter.sound.listener.served pid hmem
    exact ⟨htracks.1, htold⟩
  · exact hafter.misses htracked

/-- A STOP, and the child ends while the listener waits for it. -/
def lateStop : List (Event ChildStage) :=
  [.hear (.ok .stop), .listener, .listener, .outside fun s => { s with host := .ended }, .listener]

/-- The child is told to end, and then collected. -/
theorem stop_reaches_tracked_lateStop :
    let a := (({ job := Job.greeting } : Attended ChildStage).run (fun _ => stagedLauncher 7 (.signaled .kill))
      [.main, .main]).run (fun _ => stagedLauncher 7 (.signaled .kill)) lateStop
    a.listener.served = [.stop (some 7)] ∧ a.listener.misses = 0 ∧ .signal 7 .term ∈ a.job.lifecycle.calls := by
  have hcreated : Job.create ⟨["greet"], false, some "console", .drainToEof, 4⟩ {} ⟨[]⟩ Job.greeting.account
      ⟨1, 0, .write⟩ Job.bareDisk ChildStage.absent = (.ok Job.greeting, { files := Job.bareDisk }) := rfl
  obtain ⟨hserved, -, hmissed, -⟩ :=
    stop_reaches_tracked (L := fun _ => stagedLauncher 7 (.signaled .kill)) hcreated [.main, .main] lateStop
  exact ⟨rfl, (hmissed (by decide)).2, (hserved 7 List.mem_cons_self).2⟩

/-- **A STOP that is served before the child is started ends nothing**: the child runs and is tracked, the listener has
served the STOP to its end, and nobody was signalled. -/
theorem early_stop_is_lost :
    let a := ({ job := Job.greeting } : Attended ChildStage).run (fun _ => stagedLauncher 7 (.signaled .kill))
      [.hear (.ok .stop), .listener, .listener, .main, .main]
    a.job.phase = .relaying 7 ∧ a.job.lifecycle.tracked = 7 ∧ a.listener = { served := [.stop none] } ∧
      ∀ group signal, .signal group signal ∉ a.job.lifecycle.calls := by
  refine ⟨rfl, rfl, rfl, fun group signal hmem => ?_⟩
  rcases List.mem_cons.mp hmem with heq | hmem
  · cases heq
  · cases hmem

end Attended

end BatchJob
