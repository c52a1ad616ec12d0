import BatchJob.Lifecycle.Threads
import BatchJob.Proofs.Job.Child

/-!
# One exit status

Whichever party collects the child, every call that reaps it answers the return code of its status, and every
call that terminates it succeeds, however the steps of the parties are interleaved.

A child that was collected is on record, or somebody is about to record it (`Consistent.recorded`). A thread that
finds no such child holds the lock, so that the other thread is not about to record; and the thread that looks
the status up is the main thread, which does not go on while the handler runs. So nobody is about to record then,
and the status is on record. The lock alone would not do: a thread that the handler does not interrupt could look
the status up between the handler's wait and its record, and so only the main thread may reap.

Main statement: `one_exit_status`.
-/

namespace BatchJob

/-- Only a child that was collected is collected by itself. -/
theorem ChildStage.Leads.of_collected {before : ChildStage} (h : before.Leads .collected) : before = .collected := by
  cases h
  rfl

/-- A child that was started stays so. -/
theorem ChildStage.Leads.started {before after : ChildStage} (h : before.Leads after) (started : before ≠ .absent) :
    after ≠ .absent := by
  cases h with
  | stays => exact started
  | ends => nofun

variable {σ : Type} {L : Launcher σ}

/-! ## What the parties rely on -/

namespace OneChild

/-- A signal to the group of the child reaches it, or finds no such group; it may end the child. -/
structure TakesSignals (child : OneChild fun _ => L) : Prop where
  answers : ∀ signal host, (L.signalGroup child.pid signal host).1 = .ok () ∨
    ∃ e, (L.signalGroup child.pid signal host).1 = .error e ∧ e.isGone = true
  leads : ∀ signal host, (child.stage host).Leads (child.stage (L.signalGroup child.pid signal host).2)

variable {child : OneChild fun _ => L}

/-- A wait that returns gives the status of the child, or finds that it was collected. -/
theorem wait_cases {host : σ} (started : child.stage host ≠ .absent)
    (returns : L.waitReturns child.pid host = true) :
    ∃ host', child.stage host' = .collected ∧ (L.wait child.pid host = (.ok (some child.status), host') ∨
      (child.stage host = .collected ∧ L.wait child.pid host = (.ok none, host'))) := by
  cases hstage : child.stage host with
  | absent => exact absurd hstage started
  | running => cases (child.runs .empty host hstage).symm.trans returns
  | ended =>
    obtain ⟨hstatus, hafter⟩ := child.givesStatus .empty host hstage
    exact ⟨_, hafter, .inl (Prod.ext hstatus rfl)⟩
  | collected =>
    obtain ⟨hgone, hafter⟩ := child.isGone .empty host hstage
    exact ⟨_, hafter, .inr ⟨rfl, Prod.ext hgone rfl⟩⟩

/-- Signalling the group of the child succeeds, and touches only the launcher's state. -/
theorem TakesSignals.signalGroup (h : child.TakesSignals) (s : Lifecycle σ) (signal : Signal) :
    ∃ s', s.signalGroup L child.pid signal = (.ok (), s') ∧ s'.exits = s.exits ∧
      (child.stage s.host).Leads (child.stage s'.host) := by
  have hleads := h.leads signal s.host
  have hanswers := h.answers signal s.host
  unfold Lifecycle.signalGroup Lifecycle.callSignal
  rcases hcall : L.signalGroup child.pid signal s.host with ⟨result, host⟩
  rw [hcall] at hleads hanswers
  rcases hanswers with hok | ⟨e, herror, hgone⟩
  · cases hok
    exact ⟨_, rfl, rfl, hleads⟩
  · cases herror
    simp only
    rw [if_pos hgone]
    exact ⟨_, rfl, rfl, hleads⟩

end OneChild

namespace Threads

variable {t : Threads σ} {who other : CallingThread} {call' : Option ChildCall}

/-! ## The calls of the threads -/

@[simp] theorem call_setCall (t : Threads σ) (who : CallingThread) (call' : Option ChildCall) :
    (t.setCall who call').call who = call' := by
  cases who <;> rfl

theorem call_setCall_ne (h : other ≠ who) (t : Threads σ) (call' : Option ChildCall) :
    (t.setCall who call').call other = t.call other := by
  cases who <;> cases other <;> first | rfl | exact absurd rfl h

/-- A call of one thread is all that changes. -/
theorem setCall_frame (t : Threads σ) (who : CallingThread) (call' : Option ChildCall) :
    (t.setCall who call').lifecycle = t.lifecycle ∧ (t.setCall who call').holder = t.holder ∧
      (t.setCall who call').handler = t.handler ∧ (t.setCall who call').codes = t.codes ∧
      (t.setCall who call').terminations = t.terminations := by
  cases who <;> exact ⟨rfl, rfl, rfl, rfl, rfl⟩

variable {child : OneChild fun _ => L}

/-- The status of the child is on record. -/
def OnRecord (child : OneChild fun _ => L) (exits : ExitRecord) : Prop :=
  exits.lookup child.pid = some child.status

theorem onRecord_record (child : OneChild fun _ => L) (exits : ExitRecord) :
    OnRecord child (exits.record child.pid child.status) :=
  exits.lookup_record child.nonzero child.real

/-- What is known about a call, stage by stage. -/
inductive Sound (child : OneChild fun _ => L) (holder : Option CallingThread) (exits : ExitRecord)
    (who : CallingThread) : ChildCall → Prop
  | signalling (purpose : CallPurpose) (signal : Signal) : Sound child holder exits who ⟨purpose, .signalling signal⟩
  | locking (purpose : CallPurpose) : Sound child holder exits who ⟨purpose, .locking⟩
  | waiting (purpose : CallPurpose) (holds : holder = some who) : Sound child holder exits who ⟨purpose, .waiting⟩
  | recording (purpose : CallPurpose) (holds : holder = some who) :
      Sound child holder exits who ⟨purpose, .recording child.status⟩
  | lookingUp (purpose : CallPurpose) (holds : holder = some who) (found : OnRecord child exits) :
      Sound child holder exits who ⟨purpose, .lookingUp⟩
  | found (purpose : CallPurpose) (holds : holder = some who) :
      Sound child holder exits who ⟨purpose, .releasing (.ok (some child.status))⟩
  | gone (holds : holder = some who) : Sound child holder exits who ⟨.terminate, .releasing (.ok none)⟩

/-- A call stays sound while its thread keeps the lock and the status stays on record. -/
theorem Sound.mono {holder holder' : Option CallingThread} {exits exits' : ExitRecord} {call : ChildCall}
    (h : Sound child holder exits who call) (holds : holder = some who → holder' = some who)
    (kept : OnRecord child exits → OnRecord child exits') : Sound child holder' exits' who call := by
  cases h with
  | signalling purpose signal => exact .signalling purpose signal
  | locking purpose => exact .locking purpose
  | waiting purpose h => exact .waiting purpose (holds h)
  | recording purpose h => exact .recording purpose (holds h)
  | lookingUp purpose h found => exact .lookingUp purpose (holds h) (kept found)
  | found purpose h => exact .found purpose (holds h)
  | gone h => exact .gone (holds h)

/-! ## The invariant -/

/-- What is known at every point of a run. -/
structure Consistent (child : OneChild fun _ => L) (t : Threads σ) : Prop where
  started : child.stage t.lifecycle.host ≠ .absent
  /-- A child that was collected is on record, or somebody is about to record it. -/
  recorded : child.stage t.lifecycle.host = .collected → OnRecord child t.lifecycle.exits ∨
    t.handler = .recording child.status ∨ ∃ who purpose, t.call who = some ⟨purpose, .recording child.status⟩
  handled : ∀ status, t.handler = .recording status → status = child.status
  sound : ∀ who call, t.call who = some call → Sound child t.holder t.lifecycle.exits who call
  /-- Only the main thread reaps. -/
  listens : ∀ call, t.call .listener = some call → call.purpose = .terminate
  codes : ∀ result ∈ t.codes, result = .ok child.status.returnCode
  terminations : ∀ result ∈ t.terminations, result = .ok ()

/-- The status of a child that was collected is on record, or is about to be recorded by the handler or by another
thread. -/
def RecordedBeside (child : OneChild fun _ => L) (t : Threads σ) (who : CallingThread) (exits : ExitRecord) : Prop :=
  OnRecord child exits ∨ t.handler = .recording child.status ∨
    ∃ other purpose, other ≠ who ∧ t.call other = some ⟨purpose, .recording child.status⟩

/-- A thread that is not recording leaves that to others. -/
theorem Consistent.recordedBeside (h : Consistent child t)
    (other : ∀ purpose, t.call who ≠ some ⟨purpose, .recording child.status⟩)
    (collected : child.stage t.lifecycle.host = .collected) : RecordedBeside child t who t.lifecycle.exits := by
  rcases h.recorded collected with hrecord | hhandler | ⟨who', purpose, hcall⟩
  · exact .inl hrecord
  · exact .inr (.inl hhandler)
  · refine .inr (.inr ⟨who', purpose, ?_, hcall⟩)
    rintro rfl
    exact other purpose hcall

/-- A step of one thread keeps what is known if it does so for its own call, takes no lock from the other thread,
and leaves the status on record. -/
theorem Consistent.setCall (h : Consistent child t) (lifecycle : Lifecycle σ) (holder : Option CallingThread)
    (started : child.stage lifecycle.host ≠ .absent)
    (recorded : child.stage lifecycle.host = .collected → RecordedBeside child t who lifecycle.exits ∨
      ∃ purpose, call' = some ⟨purpose, .recording child.status⟩)
    (others : ∀ other, other ≠ who → t.holder = some other → holder = some other)
    (kept : OnRecord child t.lifecycle.exits → OnRecord child lifecycle.exits)
    (sound : ∀ call, call' = some call → Sound child holder lifecycle.exits who call)
    (listens : who = .listener → ∀ call, call' = some call → call.purpose = .terminate) :
    Consistent child ({ t with lifecycle, holder }.setCall who call') := by
  obtain ⟨hlifecycle, hholder, hhandler, hcodes, hterminations⟩ :=
    setCall_frame { t with lifecycle, holder } who call'
  have hother {other : CallingThread} (hne : other ≠ who) :
      ({ t with lifecycle, holder }.setCall who call').call other = t.call other :=
    (call_setCall_ne hne _ _).trans (by cases other <;> rfl)
  refine ⟨?_, fun collected => ?_, ?_, fun who' call hcall => ?_, fun call hcall => ?_, ?_, ?_⟩
  · rw [hlifecycle]
    exact started
  · rw [hlifecycle] at collected ⊢
    rw [hhandler]
    rcases recorded collected with (hrecord | hhandler | ⟨other, purpose, hne, hcall⟩) | ⟨purpose, rfl⟩
    · exact .inl hrecord
    · exact .inr (.inl hhandler)
    · exact .inr (.inr ⟨other, purpose, (hother hne).trans hcall⟩)
    · exact .inr (.inr ⟨who, purpose, call_setCall _ _ _⟩)
  · rw [hhandler]
    exact h.handled
  · rw [hlifecycle, hholder]
    by_cases hwho : who' = who
    · subst hwho
      rw [call_setCall] at hcall
      exact sound call hcall
    · rw [hother hwho] at hcall
      exact (h.sound who' call hcall).mono (others who' hwho) kept
  · by_cases hwho : .listener = who
    · subst hwho
      rw [call_setCall] at hcall
      exact listens rfl call hcall
    · rw [hother hwho] at hcall
      exact h.listens call hcall
  · rw [hcodes]
    exact h.codes
  · rw [hterminations]
    exact h.terminations

/-! ## Every step keeps the invariant -/

/-- A thread that gives the lock back ends its call. -/
theorem Consistent.release (h : Consistent child t) (holds : t.holder = some who)
    (other : ∀ purpose, t.call who ≠ some ⟨purpose, .recording child.status⟩) :
    Consistent child ({ t with holder := none }.setCall who none) := by
  refine h.setCall t.lifecycle none h.started (fun collected => .inl (h.recordedBeside other collected)) ?_ id
    (by rintro _ ⟨⟩) (by rintro _ _ ⟨⟩)
  intro other hne hholds
  exact absurd (Option.some.inj (hholds.symm.trans holds)) hne

/-- **A thread that holds the lock and finds the child collected finds it on record, if the handler does not run or
nobody asks for the record.** -/
theorem Consistent.onRecord_of_gone (h : Consistent child t) (holds : t.holder = some who)
    (waiting : t.call who = some ⟨.reap, .waiting⟩) (free : t.interrupted who = false)
    (collected : child.stage t.lifecycle.host = .collected) : OnRecord child t.lifecycle.exits := by
  have hmain : who = .main := by
    cases who with
    | main => rfl
    | listener => cases h.listens _ waiting
  subst hmain
  have hother : ∀ purpose, t.call .main ≠ some ⟨purpose, .recording child.status⟩ := by
    rw [waiting]
    nofun
  rcases h.recordedBeside hother collected with hrecord | hhandler | ⟨other, purpose, hne, hcall⟩
  · exact hrecord
  · -- the main thread does not go on while the handler runs
    unfold interrupted at free
    rw [hhandler] at free
    cases free
  · -- the other thread does not hold the lock
    cases h.sound other _ hcall with
    | recording _ hother => exact absurd (Option.some.inj (hother.symm.trans holds)) hne

theorem Consistent.proceed (h : Consistent child t) (signals : child.TakesSignals) {call : ChildCall}
    (current : t.call who = some call) (free : t.interrupted who = false) {t' : Threads σ}
    (step : t.proceed? L child.pid who call = some t') : Consistent child t' := by
  have hother (stage : ∀ status, call.stage ≠ .recording status) (purpose : CallPurpose) :
      t.call who ≠ some ⟨purpose, .recording child.status⟩ := by
    rw [current]
    rintro ⟨⟩
    exact stage _ rfl
  have hlistens (stage : CallStage) :
      who = .listener → ∀ call', some (ChildCall.mk call.purpose stage) = some call' → call'.purpose = .terminate := by
    rintro rfl _ ⟨⟩
    exact h.listens call current
  have hlock : ∀ other, other ≠ who → t.holder = some other → t.holder = some other := fun _ _ hholds => hholds
  cases h.sound who call current with
  | signalling purpose signal =>
    obtain ⟨s', hsignal, hexits, hleads⟩ := signals.signalGroup t.lifecycle signal
    simp only [proceed?, hsignal] at step
    cases step
    refine h.setCall s' t.holder (hleads.started h.started) (fun collected => .inl ?_) hlock (by rw [hexits]; exact id)
      (by rintro _ ⟨⟩; exact .locking purpose) (hlistens _)
    rw [hexits]
    exact h.recordedBeside (hother nofun) (collected ▸ hleads).of_collected
  | locking purpose =>
    simp only [proceed?] at step
    split at step
    next hfree =>
      cases step
      refine h.setCall t.lifecycle (some who) h.started
        (fun collected => .inl (h.recordedBeside (hother nofun) collected)) ?_ id
        (by rintro _ ⟨⟩; exact .waiting purpose rfl) (hlistens _)
      intro other _ hholds
      rw [hholds] at hfree
      cases hfree
    next => cases step
  | waiting purpose holds =>
    simp only [proceed?] at step
    split at step
    next hreturns =>
      obtain ⟨host', hafter, hwait⟩ := child.wait_cases h.started hreturns
      have hstarted : child.stage host' ≠ .absent := by rw [hafter]; nofun
      rcases hwait with hwait | ⟨hcollected, hwait⟩
      · simp only [Lifecycle.askWait, hwait] at step
        cases step
        exact h.setCall _ t.holder hstarted (fun _ => .inr ⟨purpose, rfl⟩) hlock id
          (by rintro _ ⟨⟩; exact .recording purpose holds) (hlistens _)
      · simp only [Lifecycle.askWait, hwait] at step
        cases step
        refine h.setCall _ t.holder hstarted (fun _ => .inl (h.recordedBeside (hother nofun) hcollected)) hlock id ?_
          (hlistens _)
        rintro _ ⟨⟩
        cases purpose with
        | reap => exact .lookingUp .reap holds (h.onRecord_of_gone holds current free hcollected)
        | terminate => exact .gone holds
    next => cases step
  | recording purpose holds =>
    simp only [proceed?] at step
    cases step
    have hrecord := onRecord_record child t.lifecycle.exits
    exact h.setCall _ t.holder h.started (fun _ => .inl (.inl hrecord)) hlock (fun _ => hrecord)
      (by rintro _ ⟨⟩; exact .found purpose holds) (hlistens _)
  | lookingUp purpose holds found =>
    unfold OnRecord at found
    simp only [proceed?, found] at step
    cases step
    exact h.setCall t.lifecycle t.holder h.started (fun collected => .inl (h.recordedBeside (hother nofun) collected))
      hlock id (by rintro _ ⟨⟩; exact .found purpose holds) (hlistens _)
  | found purpose holds =>
    simp only [proceed?] at step
    cases step
    have hreleased := h.release holds (hother nofun)
    cases purpose with
    | reap => exact { hreleased with codes := List.forall_mem_cons.mpr ⟨rfl, hreleased.codes⟩ }
    | terminate =>
      exact { hreleased with terminations := List.forall_mem_cons.mpr ⟨rfl, hreleased.terminations⟩ }
  | gone holds =>
    simp only [proceed?] at step
    cases step
    have hreleased := h.release holds (hother nofun)
    exact { hreleased with terminations := List.forall_mem_cons.mpr ⟨rfl, hreleased.terminations⟩ }

/-- A call that is begun holds no lock yet. -/
theorem Consistent.begin (h : Consistent child t) {call : ChildCall} (outside : ∀ holder exits,
      Sound child holder exits who call) (terminates : who = .listener → call.purpose = .terminate)
    {t' : Threads σ} (begins : t.begin? who call = some t') : Consistent child t' := by
  unfold begin? at begins
  split at begins
  next => cases begins
  next hfree =>
    cases begins
    simp only [Bool.or_eq_true, not_or, Option.not_isSome_iff_eq_none] at hfree
    refine h.setCall t.lifecycle t.holder h.started (fun collected => .inl (h.recordedBeside ?_ collected))
      (fun _ _ hholds => hholds) id ?_ ?_
    · rw [hfree.2]
      nofun
    · rintro _ ⟨⟩
      exact outside _ _
    · rintro hwho _ ⟨⟩
      exact terminates hwho

/-- A step of the handler keeps what is known if it leaves the status on record, or is about to record it. -/
theorem Consistent.setHandler (h : Consistent child t) (lifecycle : Lifecycle σ) (shutdown : ShutdownSignal)
    (handler : HandlerStage) (started : child.stage lifecycle.host ≠ .absent)
    (recorded : child.stage lifecycle.host = .collected → OnRecord child lifecycle.exits ∨
      handler = .recording child.status ∨ ∃ who purpose, t.call who = some ⟨purpose, .recording child.status⟩)
    (handled : ∀ status, handler = .recording status → status = child.status)
    (kept : OnRecord child t.lifecycle.exits → OnRecord child lifecycle.exits) :
    Consistent child { t with lifecycle, shutdown, handler } := by
  have hcall (who : CallingThread) : ({ t with lifecycle, shutdown, handler } : Threads σ).call who = t.call who := by
    cases who <;> rfl
  refine ⟨started, fun collected => ?_, handled, fun who call hthis => ?_, h.listens, h.codes, h.terminations⟩
  · rcases recorded collected with hrecord | hhandler | ⟨who, purpose, hthis⟩
    · exact .inl hrecord
    · exact .inr (.inl hhandler)
    · exact .inr (.inr ⟨who, purpose, (hcall who).trans hthis⟩)
  · rw [hcall who] at hthis
    exact (h.sound who call hthis).mono id kept

/-- While the handler is not recording, that is left to others. -/
theorem Consistent.recorded_of_handler (h : Consistent child t) (handler : t.handler ≠ .recording child.status)
    (collected : child.stage t.lifecycle.host = .collected) (handler' : HandlerStage) :
    OnRecord child t.lifecycle.exits ∨ handler' = .recording child.status ∨
      ∃ who purpose, t.call who = some ⟨purpose, .recording child.status⟩ := by
  rcases h.recorded collected with hrecord | hhandler | hthread
  · exact .inl hrecord
  · exact absurd hhandler handler
  · exact .inr (.inr hthread)

/-- The handler records what it collects. -/
theorem Consistent.handle (h : Consistent child t) : Consistent child (t.handle L child.pid) := by
  unfold Threads.handle
  split
  next => exact h
  next hpolling =>
    have hrecorded (collected : child.stage t.lifecycle.host = .collected) :=
      h.recorded_of_handler (by rw [hpolling]; nofun) collected
    split
    next hreturns =>
      obtain ⟨host', hafter, hwait⟩ := child.wait_cases h.started hreturns
      have hstarted : child.stage host' ≠ .absent := by rw [hafter]; nofun
      rcases hwait with hwait | ⟨hcollected, hwait⟩
      · rw [hwait]
        exact h.setHandler _ t.shutdown _ hstarted (fun _ => .inr (.inl rfl)) (by rintro _ ⟨⟩; rfl) id
      · rw [hwait]
        exact h.setHandler _ t.shutdown _ hstarted (fun _ => hrecorded hcollected _) nofun id
    next => exact h.setHandler t.lifecycle t.shutdown _ h.started (fun collected => hrecorded collected _) nofun id
  next status hrecording =>
    rw [h.handled status hrecording]
    have hrecord := onRecord_record child t.lifecycle.exits
    exact h.setHandler _ t.shutdown _ h.started (fun _ => .inl hrecord) nofun fun _ => hrecord
  next hposting =>
    refine h.setHandler t.lifecycle _ _ h.started (fun collected => ?_) nofun id
    exact h.recorded_of_handler (by rw [hposting]; nofun) collected _

/-- **Every event keeps what is known.** -/
theorem Consistent.advance (h : Consistent child t) (signals : child.TakesSignals) (e : Event σ)
    (passes : ∀ change, e = .pass change → ∀ host, (child.stage host).Leads (child.stage (change host))) :
    Consistent child (t.advance L child.pid e) := by
  cases e with
  | pass change =>
    have hleads := passes change rfl t.lifecycle.host
    refine h.setHandler { t.lifecycle with host := change t.lifecycle.host } t.shutdown t.handler
      (hleads.started h.started) (fun collected => ?_) h.handled id
    exact h.recorded (collected ▸ hleads).of_collected
  | interrupt =>
    show Consistent child (if t.handler = .idle then { t with handler := .polling } else t)
    split
    next hidle =>
      refine h.setHandler t.lifecycle t.shutdown .polling h.started (fun collected => ?_) nofun id
      exact h.recorded_of_handler (by rw [hidle]; nofun) collected _
    next => exact h
  | handle => exact h.handle
  | reap =>
    show Consistent child ((t.begin? .main ⟨.reap, .locking⟩).getD t)
    cases hbegin : t.begin? .main ⟨.reap, .locking⟩ with
    | none => exact h
    | some t' => exact h.begin (fun _ _ => .locking _) (by nofun) hbegin
  | terminate who signal =>
    show Consistent child ((t.begin? who ⟨.terminate, .signalling signal⟩).getD t)
    cases hbegin : t.begin? who ⟨.terminate, .signalling signal⟩ with
    | none => exact h
    | some t' => exact h.begin (fun _ _ => .signalling _ _) (fun _ => rfl) hbegin
  | step who =>
    show Consistent child ((t.step? L child.pid who).getD t)
    unfold step?
    split
    next => exact h
    next call hcall =>
      split
      next => exact h
      next hfree =>
        cases hstep : t.proceed? L child.pid who call with
        | none => exact h
        | some t' => exact h.proceed signals hcall (Bool.not_eq_true _ ▸ hfree) hstep

/-- What is known holds at every point of every run. -/
theorem Consistent.run (signals : child.TakesSignals) (schedule : List (Event σ)) {t : Threads σ}
    (h : Consistent child t)
    (passes : ∀ change, .pass change ∈ schedule → ∀ host, (child.stage host).Leads (child.stage (change host))) :
    Consistent child (t.run L child.pid schedule) := by
  induction schedule generalizing t with
  | nil => exact h
  | cons e schedule ih =>
    have hnext : Consistent child (t.advance L child.pid e) := by
      refine h.advance signals e fun change he => passes change ?_
      rw [he]
      exact List.mem_cons_self
    exact ih hnext fun change hmem => passes change (List.mem_cons_of_mem _ hmem)

/-! ## Calls that nobody comes between -/

/-- A wait of the main sequence is a wait and the record of what it gave. -/
theorem callWait_eq (s : Lifecycle σ) (pid : Pid) : s.callWait L pid =
    match s.askWait L pid with
    | (.ok (some status), s) => (.ok (some status), s.recorded pid status)
    | result => result := by
  unfold Lifecycle.callWait Lifecycle.askWait
  rcases L.wait pid s.host with ⟨result, host⟩
  rcases result with e | status?
  · rfl
  · cases status? <;> rfl

/-- A thread that holds the lock waits once the wait returns. -/
theorem advance_waiting (t : Threads σ) (pid : Pid) (who : CallingThread) (purpose : CallPurpose)
    (waiting : t.call who = some ⟨purpose, .waiting⟩) (free : t.interrupted who = false)
    (returns : L.waitReturns pid t.lifecycle.host = true) :
    t.advance L pid (.step who) = { t with lifecycle := (t.lifecycle.askWait L pid).2 }.goTo who purpose
      (purpose.afterWait (t.lifecycle.askWait L pid).1) := by
  show (t.step? L pid who).getD t = _
  unfold step? proceed?
  rw [waiting]
  simp only
  rw [if_neg (by rw [free]; nofun), if_pos returns]
  rfl

/-- **A call that reaps, taken step by step with nobody between the steps, is the one call of the main sequence.** -/
theorem run_reap (t : Threads σ) (pid : Pid) (idle : t.main = none) (free : t.holder = none) (quiet : t.handler = .idle)
    (returns : L.waitReturns pid t.lifecycle.host = true) :
    t.run L pid (.reap :: List.replicate 4 (.step .main)) =
      { t with
        lifecycle := (t.lifecycle.reap L pid).2
        codes := (t.lifecycle.reap L pid).1 :: t.codes } := by
  obtain ⟨lifecycle, shutdown, holder, main, listener, handler, codes, terminations⟩ := t
  cases idle
  cases free
  cases quiet
  -- the lock is free, so that the first step left is the wait
  have hwaited := advance_waiting ⟨lifecycle, shutdown, some .main, some ⟨.reap, .waiting⟩, listener, .idle, codes,
    terminations⟩ pid .main .reap rfl rfl returns
  show ((advance L pid ⟨lifecycle, shutdown, some .main, some ⟨.reap, .waiting⟩, listener, .idle, codes, terminations⟩
    (.step .main)).advance L pid (.step .main)).advance L pid (.step .main) = _
  rw [hwaited]
  unfold Lifecycle.reap
  rw [callWait_eq]
  rcases lifecycle.askWait L pid with ⟨result, after⟩
  rcases result with e | status?
  · rfl
  · cases status? with
    | some status => rfl
    | none =>
      show Threads.mk after shutdown none none listener .idle (codeOf pid (.ok (after.exits.lookup pid)) :: codes)
        terminations = _
      simp only
      cases after.exits.lookup pid <;> rfl

/-- **So is a call that terminates.** -/
theorem run_terminate (t : Threads σ) (pid : Pid) (signal : Signal) (idle : t.listener = none) (free : t.holder = none)
    (returns : L.waitReturns pid (t.lifecycle.signalGroup L pid signal).2.host = true) :
    t.run L pid (.terminate .listener signal :: List.replicate 5 (.step .listener)) =
      { t with
        lifecycle := (t.lifecycle.terminate L pid signal).2
        terminations := (t.lifecycle.terminate L pid signal).1 :: t.terminations } := by
  obtain ⟨lifecycle, shutdown, holder, main, listener, handler, codes, terminations⟩ := t
  cases idle
  cases free
  show (List.replicate 4 (.step .listener)).foldl (advance L pid) (advance L pid
    ⟨lifecycle, shutdown, none, main, some ⟨.terminate, .signalling signal⟩, handler, codes, terminations⟩
    (.step .listener)) = _
  unfold Lifecycle.terminate
  rcases hsignal : lifecycle.signalGroup L pid signal with ⟨result, signalled⟩
  have hfirst : advance L pid
      ⟨lifecycle, shutdown, none, main, some ⟨.terminate, .signalling signal⟩, handler, codes, terminations⟩
      (.step .listener) = match result with
        | .ok () => ⟨signalled, shutdown, none, main, some ⟨.terminate, .locking⟩, handler, codes, terminations⟩
        | .error e => ⟨signalled, shutdown, none, main, none, handler, codes, .error e :: terminations⟩ := by
    show (step? L pid _ .listener).getD _ = _
    unfold step? proceed?
    simp only [call, interrupted, hsignal]
    cases result <;> rfl
  rw [hfirst]
  cases result with
  | error e => rfl
  | ok =>
    rw [hsignal] at returns
    have hwaited := advance_waiting ⟨signalled, shutdown, some .listener, main, some ⟨.terminate, .waiting⟩, handler,
      codes, terminations⟩ pid .listener .terminate rfl rfl returns
    show ((advance L pid ⟨signalled, shutdown, some .listener, main, some ⟨.terminate, .waiting⟩, handler, codes,
      terminations⟩ (.step .listener)).advance L pid (.step .listener)).advance L pid (.step .listener) = _
    rw [hwaited]
    unfold Lifecycle.collect
    simp only
    rw [callWait_eq]
    rcases signalled.askWait L pid with ⟨result, after⟩
    rcases result with e | status?
    · rfl
    · cases status? <;> rfl

/-! ## The main statement -/

/-- **Every call that reaps the child answers the return code of its status, and every call that terminates it
succeeds, however the steps of the two threads, of the handler and of the child are interleaved.** The child has
been started, and if it was collected already its status is on record. The threads make as many calls as they
like; only the main thread reaps. At every point of a run a call that nobody comes between returns after its own
steps, if the lock is free and the wait returns. -/
theorem one_exit_status (child : OneChild fun _ => L) (signals : child.TakesSignals) (lifecycle : Lifecycle σ)
    (accounted : child.Accounted lifecycle.host lifecycle.exits) (schedule : List (Event σ))
    (passes : ∀ change, .pass change ∈ schedule → ∀ host, (child.stage host).Leads (child.stage (change host))) :
    let t := (atRest lifecycle).run L child.pid schedule
    (∀ result ∈ t.codes, result = .ok child.status.returnCode) ∧ (∀ result ∈ t.terminations, result = .ok ()) ∧
    (t.main = none → t.holder = none → t.handler = .idle → L.waitReturns child.pid t.lifecycle.host = true →
      (t.run L child.pid (.reap :: List.replicate 4 (.step .main))).codes =
        .ok child.status.returnCode :: t.codes) ∧
    ∀ signal, t.listener = none → t.holder = none →
      L.waitReturns child.pid (t.lifecycle.signalGroup L child.pid signal).2.host = true →
      (t.run L child.pid (.terminate .listener signal :: List.replicate 5 (.step .listener))).terminations =
        .ok () :: t.terminations := by
  intro t
  have hstart : Consistent child (atRest lifecycle) :=
    { started := accounted.started
      recorded := fun collected => .inl (accounted.recorded collected)
      handled := by rintro _ ⟨⟩
      sound := by rintro (_ | _) _ ⟨⟩
      listens := by rintro _ ⟨⟩
      codes := List.forall_mem_nil _
      terminations := List.forall_mem_nil _ }
  have hend : Consistent child t := hstart.run signals schedule passes
  refine ⟨hend.codes, hend.terminations, fun idle free quiet returns => ?_, fun signal idle free returns => ?_⟩
  · have hlater := hend.run signals (.reap :: List.replicate 4 (.step .main)) (by simp)
    have hcodes := congrArg codes (run_reap t child.pid idle free quiet returns)
    rw [hcodes, hlater.codes (t.lifecycle.reap L child.pid).1 (by rw [hcodes]; exact List.mem_cons_self)]
  · have hlater := hend.run signals (.terminate .listener signal :: List.replicate 5 (.step .listener)) (by simp)
    have hterminations := congrArg terminations (run_terminate t child.pid signal idle free returns)
    rw [hterminations, hlater.terminations (t.lifecycle.terminate L child.pid signal).1
      (by rw [hterminations]; exact List.mem_cons_self)]

/-- A child that exits with code 5. -/
def fifthChild : OneChild fun _ => stagedLauncher 42 (.exited 5) :=
  .staged 42 (.exited 5) (by decide) (by show (0 : Int32) ≤ 5; decide)

/-- The child ends. -/
def endRunning : ChildStage → ChildStage
  | .running => .ended
  | stage => stage

/-- The handler collects the child while the main thread holds the lock and waits, and a request to end the child
comes before the handler has recorded the status. -/
def race : List (Event ChildStage) :=
  [.reap, .step .main, .pass endRunning, .interrupt, .handle, .terminate .listener .term, .step .listener,
    .step .listener, .step .main, .handle, .handle, .handle, .step .main, .step .main, .step .main,
    .step .listener, .step .listener, .step .listener, .reap, .step .main, .step .main, .step .main, .step .main]

/-- Both calls that reap answer 5, and the call that terminates succeeds. -/
theorem one_exit_status_race :
    let t := (atRest { host := ChildStage.running }).run (stagedLauncher 42 (.exited 5)) 42 race
    t.codes.length = 2 ∧ t.terminations.length = 1 ∧ (∀ result ∈ t.codes, result = .ok 5) ∧
      ∀ result ∈ t.terminations, result = .ok () := by
  intro t
  have hsignals : fifthChild.TakesSignals := ⟨fun _ _ => .inl rfl, fun _ _ => .stays _⟩
  have haccounted : fifthChild.Accounted ChildStage.running {} := .of_running rfl
  have hpasses : ∀ change, .pass change ∈ race →
      ∀ host, (fifthChild.stage host).Leads (fifthChild.stage (change host)) := by
    intro change hmem host
    simp only [race, List.mem_cons, List.not_mem_nil, or_false, reduceCtorEq, false_or, Event.pass.injEq] at hmem
    subst hmem
    cases host with
    | running => exact .ends
    | absent | ended | collected => exact .stays _
  obtain ⟨hcodes, hterminations, -⟩ := one_exit_status fifthChild hsignals { host := .running } haccounted race
    hpasses
  exact ⟨rfl, rfl, hcodes, hterminations⟩

end Threads

end BatchJob
