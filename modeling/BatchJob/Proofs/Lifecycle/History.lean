import BatchJob.Proofs.Lifecycle.Exchanges
import BatchJob.Rehearsal.ScriptedLauncher

/-!
# The operations on the child in any order

All holders of a lifecycle share its state, so that the calls of a lifecycle and its clones are one sequence of
operations. Whatever the launcher answers to them, what an operation does follows from the tracked child, from what is
on record, and from the answers that it gets itself (`Course`). So the tracked child is the one that was started last,
the record changes only where a wait has given a status, and an operation that fails leaves both as they were.

Main statement: `history_lawful`.
-/

namespace BatchJob.Lifecycle

variable {σ : Type}

/-! ## Operations -/

/-- An operation on the child. -/
inductive Operation
  | spawn (program : List String) (account : Account) (environment : Environment)
  | terminate (pid : Pid) (signal : Signal)
  | reap (pid : Pid)
  /-- The request to end the tracked child, through a handle that can do nothing else. -/
  | requestEnd (signal : Signal)

/-- What an operation answers when it succeeds. -/
inductive Answer
  /-- The child was started. -/
  | started (pid : Pid)
  | terminated
  | reaped (code : Int32)
  /-- The request was heard, and whether there was a child to end. -/
  | requested (found : Bool)
  deriving DecidableEq

/-- How an operation came out. -/
abbrev Outcome := Except LifecycleError Answer

/-- The child that an operation has started, if it has. -/
def Outcome.started? : Outcome → Option Pid
  | .ok (.started pid) => some pid
  | _ => none

/-- Carries out an operation. -/
def perform (L : Launcher σ) (s : Lifecycle σ) : Operation → Outcome × Lifecycle σ
  | .spawn program account environment =>
    let (result, s) := s.spawn L program account environment
    (result.map .started, s)
  | .terminate pid signal =>
    let (result, s) := s.terminate L pid signal
    (result.map fun _ => .terminated, s)
  | .reap pid =>
    let (result, s) := s.reap L pid
    (result.map .reaped, s)
  | .requestEnd signal =>
    let (result, s) := s.requestEnd L signal
    (result.map .requested, s)

/-- Carries out operations one after another, whatever comes of them. -/
def performAll (L : Launcher σ) (s : Lifecycle σ) : List Operation → List Outcome × Lifecycle σ
  | [] => ([], s)
  | op :: ops =>
    let (outcome, s) := s.perform L op
    let (outcomes, s) := s.performAll L ops
    (outcome :: outcomes, s)

/-- The children that operations have started, the last one last. -/
def startedIn (outcomes : List Outcome) : List Pid :=
  outcomes.filterMap Outcome.started?

/-! ## One operation -/

/-- What an operation exchanges with the launcher, and what comes of it. -/
inductive Course (before : Lifecycle σ) : Operation → List Exchange → Outcome → Prop
  | started {program : List String} {account : Account} {environment : Environment} {request : SpawnRequest} {pid : Pid} :
      Course before (.spawn program account environment) [.spawn request (.ok pid)] (.ok (.started pid))
  | notStarted {program : List String} {account : Account} {environment : Environment} {request : SpawnRequest}
      {cause : LaunchError} :
      Course before (.spawn program account environment) [.spawn request (.error cause)] (.error (.launch cause))
  | terminated {pid : Pid} {signal : Signal} {exchanges : List Exchange} {ended : Except LifecycleError Unit}
      (ends : Ends pid signal exchanges ended) :
      Course before (.terminate pid signal) exchanges (ended.map fun _ => .terminated)
  | reaped {pid : Pid} {exchange : Exchange} {code : Except LifecycleError Int32}
      (reaps : Reaps pid before.exits exchange code) : Course before (.reap pid) [exchange] (code.map .reaped)
  | requested {signal : Signal} {exchanges : List Exchange} {found : Except LifecycleError Bool}
      (requests : Requests before.child signal exchanges found) :
      Course before (.requestEnd signal) exchanges (found.map .requested)

/-- An operation as it was carried out. -/
structure Performed (σ : Type) where
  operation : Operation
  before : Lifecycle σ
  /-- The calls that the operation has made, in order, with their answers. -/
  exchanges : List Exchange
  outcome : Outcome
  after : Lifecycle σ

/-- Carries out an operation and notes what it exchanges with the launcher. -/
def performed (L : Launcher σ) (s : Lifecycle σ) (op : Operation) : Performed σ :=
  let (outcome, w) := s.watch.perform L.watched op
  { operation := op, before := s, exchanges := w.host.exchanges.reverse, outcome, after := w.bare }

/-- What holds of an operation, whatever came before it. -/
structure Performed.Lawful (p : Performed σ) : Prop where
  course : Course p.before p.operation p.exchanges p.outcome
  /-- Only a start that succeeds changes which child is tracked. -/
  tracked : p.after.tracked = (p.outcome.started?).getD p.before.tracked
  /-- The status that a wait gives is on record then, under the number of its child. -/
  recorded : ∀ pid status, .wait pid (.ok (some status)) ∈ p.exchanges → p.after.exits = p.before.exits.record pid status
  /-- Nothing else changes what is on record. -/
  unrecorded : (∀ pid status, .wait pid (.ok (some status)) ∉ p.exchanges) → p.after.exits = p.before.exits
  /-- A failure leaves everything as it was. -/
  unchanged : ∀ e, p.outcome = .error e → p.after.tracked = p.before.tracked ∧ p.after.exits = p.before.exits

/-- Being watched changes nothing. -/
theorem perform_bare (L : Launcher σ) (w : Lifecycle (Watched σ)) (op : Operation) :
    w.bare.perform L op = bareResult (w.perform L.watched op) := by
  unfold perform
  cases op with
  | spawn program account environment =>
    simp only [spawn_bare]
    rfl
  | terminate pid signal =>
    simp only [terminate_bare]
    rfl
  | reap pid =>
    simp only [reap_bare]
    rfl
  | requestEnd signal =>
    simp only [requestEnd_bare]
    rfl

/-- An operation that is noted is the operation. -/
theorem performed_eq (L : Launcher σ) (s : Lifecycle σ) (op : Operation) :
    ((s.performed L op).outcome, (s.performed L op).after) = s.perform L op :=
  (perform_bare L s.watch op).symm

@[simp] theorem performed_outcome (L : Launcher σ) (s : Lifecycle σ) (op : Operation) :
    (s.performed L op).outcome = (s.perform L op).1 :=
  congrArg Prod.fst (s.performed_eq L op)

@[simp] theorem performed_after (L : Launcher σ) (s : Lifecycle σ) (op : Operation) :
    (s.performed L op).after = (s.perform L op).2 :=
  congrArg Prod.snd (s.performed_eq L op)

/-- What an operation does, in one statement for all of them. -/
theorem performed_spec (L : Launcher σ) (s : Lifecycle σ) (op : Operation) :
    Course s op (s.performed L op).exchanges (s.performed L op).outcome ∧
      (s.performed L op).after.tracked = ((s.performed L op).outcome.started?).getD s.tracked ∧
      (s.performed L op).after.exits = (s.performed L op).exchanges.foldl Exchange.recordIn s.exits := by
  unfold performed perform
  cases op with
  | spawn program account environment =>
    obtain ⟨request, hexchanged⟩ := s.watch.launch_exchanged L program account environment
    simp only [spawn_eq]
    rcases hlaunch : s.watch.launch L.watched program account environment with ⟨cause | pid, w⟩ <;>
      rw [hlaunch] at hexchanged
    · simp only [hexchanged.exchanges_eq]
      exact ⟨.notStarted, hexchanged.tracked, hexchanged.exits⟩
    · have hnoted : (w.track pid).host.exchanges.reverse = _ := hexchanged.exchanges_eq
      simp only [hnoted]
      exact ⟨.started, rfl, hexchanged.exits⟩
  | terminate pid signal =>
    obtain ⟨exchanges, hexchanged, hends⟩ := s.watch.terminate_exchanged L pid signal
    simp only [hexchanged.exchanges_eq]
    refine ⟨.terminated hends, ?_, hexchanged.exits⟩
    cases (s.watch.terminate L.watched pid signal).1 <;> exact hexchanged.tracked
  | reap pid =>
    obtain ⟨exchange, hexchanged, hreaps⟩ := s.watch.reap_exchanged L pid
    simp only [hexchanged.exchanges_eq]
    refine ⟨.reaped hreaps, ?_, hexchanged.exits⟩
    cases (s.watch.reap L.watched pid).1 <;> exact hexchanged.tracked
  | requestEnd signal =>
    obtain ⟨exchanges, hexchanged, hrequests⟩ := s.watch.requestEnd_exchanged L signal
    simp only [hexchanged.exchanges_eq]
    refine ⟨.requested hrequests, ?_, hexchanged.exits⟩
    cases (s.watch.requestEnd L.watched signal).1 <;> exact hexchanged.tracked

/-! ### What an operation puts on record -/

section Record

variable {pid : Pid} {signal : Signal} {exchanges : List Exchange} {before : Lifecycle σ} {op : Operation}
  {outcome : Outcome} {e : LifecycleError} {other : Pid} {status : ChildStatus}

theorem Ends.recordIn_eq {ended : Except LifecycleError Unit} (h : Ends pid signal exchanges ended) (exits : ExitRecord)
    (waited : .wait other (.ok (some status)) ∈ exchanges) :
    exchanges.foldl Exchange.recordIn exits = exits.record other status := by
  cases h with
  | waited =>
    simp only [List.mem_cons, List.not_mem_nil, reduceCtorEq, false_or, or_false, Exchange.wait.injEq,
      Except.ok.injEq] at waited
    obtain ⟨rfl, rfl⟩ := waited
    rfl
  | notWaited | notSignalled => simp at waited

theorem Reaps.recordIn_eq {exchange : Exchange} {code : Except LifecycleError Int32} {known : ExitRecord}
    (h : Reaps pid known exchange code) (exits : ExitRecord)
    (waited : .wait other (.ok (some status)) ∈ [exchange]) :
    [exchange].foldl Exchange.recordIn exits = exits.record other status := by
  cases h with
  | collected =>
    cases List.mem_singleton.mp waited
    rfl
  | recorded | unavailable | notWaited => simp at waited

/-- An operation waits once at most, and what the wait gives is on record then. -/
theorem Course.recordIn_eq (h : Course before op exchanges outcome) (exits : ExitRecord)
    (waited : .wait other (.ok (some status)) ∈ exchanges) :
    exchanges.foldl Exchange.recordIn exits = exits.record other status := by
  cases h with
  | started | notStarted => simp at waited
  | terminated hends => exact hends.recordIn_eq exits waited
  | reaped hreaps => exact hreaps.recordIn_eq exits waited
  | requested hrequests =>
    cases hrequests with
    | tooEarly => cases waited
    | served _ hends => exact hends.recordIn_eq exits waited

/-- Without the status of a child nothing is recorded. -/
theorem foldl_recordIn_of_unrecorded (exits : ExitRecord)
    (unrecorded : ∀ pid status, .wait pid (.ok (some status)) ∉ exchanges) :
    exchanges.foldl Exchange.recordIn exits = exits := by
  induction exchanges with
  | nil => rfl
  | cons exchange exchanges ih =>
    have hfirst : exchange.recordIn exits = exits := by
      unfold Exchange.recordIn
      split
      next pid status => exact absurd List.mem_cons_self (unrecorded pid status)
      next => rfl
    rw [List.foldl_cons, hfirst]
    exact ih fun pid status hmem => unrecorded pid status (List.mem_cons_of_mem exchange hmem)

theorem Ends.unrecorded {ended : Except LifecycleError Unit} (h : Ends pid signal exchanges ended)
    (failed : ended = .error e) : .wait other (.ok (some status)) ∉ exchanges := by
  cases h with
  | waited => cases failed
  | notWaited | notSignalled => simp

/-- An operation that fails has not got the status of a child. -/
theorem Course.unrecorded (h : Course before op exchanges outcome) (failed : outcome = .error e) :
    .wait other (.ok (some status)) ∉ exchanges := by
  cases h with
  | started => cases failed
  | notStarted => simp
  | @terminated _ _ _ ended hends =>
    cases ended with
    | ok => cases failed
    | error => exact hends.unrecorded rfl
  | reaped hreaps =>
    cases hreaps with
    | collected | recorded => cases failed
    | unavailable | notWaited => simp
  | requested hrequests =>
    cases hrequests with
    | tooEarly => cases failed
    | @served _ _ ended _ hends =>
      cases ended with
      | ok => cases failed
      | error => exact hends.unrecorded rfl

end Record

/-- **Every operation is lawful**, whatever the launcher answers and whatever came before it. -/
theorem performed_lawful (L : Launcher σ) (s : Lifecycle σ) (op : Operation) : (s.performed L op).Lawful := by
  obtain ⟨hcourse, htracked, hexits⟩ := s.performed_spec L op
  refine ⟨hcourse, htracked, fun pid status hmem => ?_, fun hnone => ?_, fun e herror => ⟨?_, ?_⟩⟩
  · rw [hexits]
    exact hcourse.recordIn_eq s.exits hmem
  · rw [hexits]
    exact foldl_recordIn_of_unrecorded s.exits hnone
  · rw [htracked, herror]
    rfl
  · rw [hexits]
    exact foldl_recordIn_of_unrecorded s.exits fun _ _ => hcourse.unrecorded herror

/-! ## Operations one after another -/

/-- After an operation the tracked child is the one that it has started, if it has. -/
theorem child_perform (L : Launcher σ) (s : Lifecycle σ) (op : Operation)
    (nonzero : ∀ pid, (s.perform L op).1.started? = some pid → pid ≠ 0) :
    (s.perform L op).2.child = (s.perform L op).1.started?.or s.child := by
  obtain ⟨-, htracked, -⟩ := s.performed_spec L op
  rw [performed_after, performed_outcome] at htracked
  unfold child
  rw [htracked]
  cases hstarted : (s.perform L op).1.started? with
  | none => rfl
  | some pid => exact if_neg (nonzero pid hstarted)

theorem getLast?_startedIn_cons (outcome : Outcome) (outcomes : List Outcome) :
    (startedIn (outcome :: outcomes)).getLast? = (startedIn outcomes).getLast?.or outcome.started? := by
  unfold startedIn
  cases hstarted : outcome.started? with
  | none => rw [List.filterMap_cons_none hstarted, Option.or_none]
  | some pid =>
    rw [List.filterMap_cons_some hstarted, List.getLast?_cons]
    cases (outcomes.filterMap Outcome.started?).getLast? <;> rfl

/-- After any operations the tracked child is the one that was started last, and the one that was tracked before if none
was started. -/
theorem child_performAll (L : Launcher σ) (s : Lifecycle σ) (ops : List Operation)
    (nonzero : ∀ pid ∈ startedIn (s.performAll L ops).1, pid ≠ 0) :
    (s.performAll L ops).2.child = (startedIn (s.performAll L ops).1).getLast?.or s.child := by
  induction ops generalizing s with
  | nil => rfl
  | cons op ops ih =>
    have hfirst : ∀ pid, (s.perform L op).1.started? = some pid → pid ≠ 0 := by
      intro pid hpid
      exact nonzero pid (List.mem_filterMap.mpr ⟨_, List.mem_cons_self, hpid⟩)
    have hrest : ∀ pid ∈ startedIn ((s.perform L op).2.performAll L ops).1, pid ≠ 0 := by
      intro pid hpid
      obtain ⟨outcome, hmem, hstarted⟩ := List.mem_filterMap.mp hpid
      exact nonzero pid (List.mem_filterMap.mpr ⟨outcome, List.mem_cons_of_mem _ hmem, hstarted⟩)
    calc (s.performAll L (op :: ops)).2.child
        = (startedIn ((s.perform L op).2.performAll L ops).1).getLast?.or (s.perform L op).2.child := ih _ hrest
      _ = (startedIn ((s.perform L op).2.performAll L ops).1).getLast?.or
            ((s.perform L op).1.started?.or s.child) := by rw [s.child_perform L op hfirst]
      _ = (startedIn (s.performAll L (op :: ops)).1).getLast?.or s.child := by
          rw [← Option.or_assoc, ← getLast?_startedIn_cons]
          rfl

/-- **Whatever operations a lifecycle and its clones have carried out, and however the launcher has answered them, the
tracked child is the one that was started last, and the next operation is lawful**: it calls the launcher as its course
says and answers accordingly, it changes what is on record only where a wait has given a status, and if it fails it
leaves the tracked child and the record as they were. -/
theorem history_lawful (L : Launcher σ) (host : σ) (exits : ExitRecord) (ops : List Operation) (op : Operation)
    (nonzero : ∀ pid ∈ startedIn (performAll L { host, exits } ops).1, pid ≠ 0) :
    let s := (performAll L { host, exits } ops).2
    s.child = (startedIn (performAll L { host, exits } ops).1).getLast? ∧
    ((s.performed L op).outcome, (s.performed L op).after) = s.perform L op ∧ (s.performed L op).Lawful := by
  intro s
  refine ⟨?_, s.performed_eq L op, s.performed_lawful L op⟩
  exact (child_performAll L { host, exits } ops nonzero).trans Option.or_none

/-- A launcher that starts one child and no other one. The group of the child is gone when it is told to end, and the
child is collected then. -/
def oneShort : Rehearsal.LaunchScript where
  spawns := [.ok 7, .error .notFound]
  signals := [.error .srch]
  waits := [.ok (some (.exited 3))]

/-- The operations of two clones on such a launcher's child: it is started, another start fails, and it is told to
end. -/
def startsAndStop : List Operation :=
  let account : Account := ⟨"tester", "/u/tester", "/bin/sh"⟩
  [.spawn ["first"] account ⟨[]⟩, .spawn ["second"] account ⟨[]⟩, .requestEnd .term]

/-- The child stays tracked, and what it was collected with is found when it is reaped. -/
theorem history_lawful_startsAndStop :
    let s := (performAll Rehearsal.LaunchScript.launcher { host := oneShort } startsAndStop).2
    s.child = some 7 ∧ (s.performed Rehearsal.LaunchScript.launcher (.reap 7)).Lawful ∧
      (s.performed Rehearsal.LaunchScript.launcher (.reap 7)).outcome = .ok (.reaped 3) := by
  have hstarted : startedIn
      (performAll Rehearsal.LaunchScript.launcher { host := oneShort, exits := {} } startsAndStop).1 = [7] := rfl
  have hnonzero : ∀ pid ∈ startedIn
      (performAll Rehearsal.LaunchScript.launcher { host := oneShort, exits := {} } startsAndStop).1, pid ≠ 0 := by
    intro pid hmem
    rw [hstarted] at hmem
    rw [List.mem_singleton.mp hmem]
    decide
  obtain ⟨hchild, -, hlawful⟩ :=
    history_lawful Rehearsal.LaunchScript.launcher oneShort {} startsAndStop (.reap 7) hnonzero
  exact ⟨hchild, hlawful, rfl⟩

end BatchJob.Lifecycle
