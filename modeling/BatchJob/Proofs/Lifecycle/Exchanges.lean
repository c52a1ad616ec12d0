import BatchJob.Proofs.Lifecycle.Calls

/-!
# What passes between the operations and the launcher

A watched launcher notes every call with its answer and is otherwise the one it watches, so that an operation on the
child cannot tell the difference (`terminate_bare`, `reap_bare`, `requestEnd_bare`, `spawn_bare`). With the notes a
statement about an operation can speak of what the launcher answered.

What an operation exchanges with the launcher decides what it answers (`Ends`, `Reaps`), and it decides what is on
record afterwards (`Exchanged.exits`): the status that a wait has given, and what was there before if no wait has given
one.
-/

namespace BatchJob

/-- A call to a launcher, with its answer. -/
inductive Exchange
  | spawn (request : SpawnRequest) (answer : Except LaunchError Pid)
  | signal (group : Pid) (sent : Signal) (answer : Except LaunchError Unit)
  | wait (pid : Pid) (answer : Except LaunchError (Option ChildStatus))

/-- What is on record after a call: a wait that gives a status puts it there. -/
def Exchange.recordIn (exits : ExitRecord) : Exchange → ExitRecord
  | .wait pid (.ok (some status)) => exits.record pid status
  | _ => exits

/-- A launcher's state, with the calls that it has got, the last one first. -/
structure Watched (σ : Type) where
  host : σ
  exchanges : List Exchange := []

variable {σ α β : Type}

/-- The launcher that notes every call with its answer. -/
def Launcher.watched (L : Launcher σ) : Launcher (Watched σ) where
  spawn request w :=
    let (answer, host) := L.spawn request w.host
    (answer, ⟨host, .spawn request answer :: w.exchanges⟩)
  signalGroup group sent w :=
    let (answer, host) := L.signalGroup group sent w.host
    (answer, ⟨host, .signal group sent answer :: w.exchanges⟩)
  wait pid w :=
    let (answer, host) := L.wait pid w.host
    (answer, ⟨host, .wait pid answer :: w.exchanges⟩)
  waitReturns pid w := L.waitReturns pid w.host

namespace Lifecycle

/-- The lifecycle whose launcher is watched from now on. -/
def watch (s : Lifecycle σ) : Lifecycle (Watched σ) where
  tracked := s.tracked
  exits := s.exits
  calls := s.calls
  log := s.log
  host := { host := s.host }

/-- The lifecycle without the notes. -/
def bare (w : Lifecycle (Watched σ)) : Lifecycle σ where
  tracked := w.tracked
  exits := w.exits
  calls := w.calls
  log := w.log
  host := w.host.host

/-- An answer with the lifecycle that it leaves, without the notes. -/
def bareResult (result : α × Lifecycle (Watched σ)) : α × Lifecycle σ :=
  (result.1, result.2.bare)

/-! ## Being watched changes nothing -/

section Bare

variable (L : Launcher σ) (w : Lifecycle (Watched σ)) (pid : Pid) (signal : Signal)

@[simp] theorem child_bare : w.bare.child = w.child := rfl

@[simp] theorem logged_bare (level : LogLevel) (text : String) :
    w.bare.logged level text = (w.logged level text).bare := rfl

theorem callSignal_bare : w.bare.callSignal L pid signal = bareResult (w.callSignal L.watched pid signal) := rfl

/-- A wait puts on record what the launcher answers. -/
theorem callWait_exits (s : Lifecycle σ) : s.callWait L pid =
    ((L.wait pid s.host).1,
      { s with
        host := (L.wait pid s.host).2
        calls := .wait pid :: s.calls
        exits := (Exchange.wait pid (L.wait pid s.host).1).recordIn s.exits }) := by
  unfold callWait
  rcases L.wait pid s.host with ⟨_ | _ | _, host⟩ <;> rfl

theorem callWait_bare : w.bare.callWait L pid = bareResult (w.callWait L.watched pid) := by
  rw [callWait_exits, callWait_exits]
  rfl

theorem signalGroup_bare : w.bare.signalGroup L pid signal = bareResult (w.signalGroup L.watched pid signal) := by
  unfold signalGroup
  rw [callSignal_bare]
  rcases w.callSignal L.watched pid signal with ⟨e | _, w'⟩
  · simp only [bareResult]
    split <;> rfl
  · rfl

theorem collect_bare : w.bare.collect L pid = bareResult (w.collect L.watched pid) := by
  unfold collect
  rw [callWait_bare]
  rcases w.callWait L.watched pid with ⟨_ | _, w'⟩ <;> rfl

theorem terminate_bare : w.bare.terminate L pid signal = bareResult (w.terminate L.watched pid signal) := by
  unfold terminate
  rw [signalGroup_bare]
  rcases w.signalGroup L.watched pid signal with ⟨_ | _, w'⟩
  · rfl
  · exact collect_bare L w' pid

theorem reap_bare : w.bare.reap L pid = bareResult (w.reap L.watched pid) := by
  unfold reap
  rw [callWait_bare]
  rcases w.callWait L.watched pid with ⟨_ | _ | _, w'⟩
  · rfl
  · simp only [bareResult, bare]
    cases w'.exits.lookup pid <;> rfl
  · rfl

theorem requestEnd_bare : w.bare.requestEnd L signal = bareResult (w.requestEnd L.watched signal) := by
  unfold requestEnd
  rw [child_bare]
  cases w.child with
  | none => rfl
  | some pid =>
    simp only [terminate_bare]
    rcases w.terminate L.watched pid signal with ⟨_ | _, w'⟩ <;> rfl

theorem foldl_logged_bare (level : LogLevel) (text : String → String) (entries : List String) :
    entries.foldl (fun s entry => s.logged level (text entry)) w.bare =
      (entries.foldl (fun s entry => s.logged level (text entry)) w).bare := by
  induction entries generalizing w with
  | nil => rfl
  | cons entry entries ih => exact ih (w.logged level (text entry))

theorem launch_bare (program : List String) (account : Account) (environment : Environment) :
    w.bare.launch L program account environment = bareResult (w.launch L.watched program account environment) := by
  unfold launch
  rw [foldl_logged_bare w .warn ("Ignoring environment entry without '=': " ++ ·) environment.malformed]
  rfl

theorem spawn_bare (program : List String) (account : Account) (environment : Environment) :
    w.bare.spawn L program account environment = bareResult (w.spawn L.watched program account environment) := by
  rw [spawn_eq, spawn_eq, launch_bare]
  rcases w.launch L.watched program account environment with ⟨_ | _, w'⟩ <;> rfl

end Bare

/-! ## What is exchanged -/

/-- What the launcher was called for between two states, and what came of it: nothing but a wait changes what is on
record, and the tracked child stays the same. -/
structure Exchanged (w w' : Lifecycle (Watched σ)) (exchanges : List Exchange) : Prop where
  tracked : w'.tracked = w.tracked
  exits : w'.exits = exchanges.foldl Exchange.recordIn w.exits
  noted : w'.host.exchanges = exchanges.reverse ++ w.host.exchanges

variable {L : Launcher σ} {w w' w'' : Lifecycle (Watched σ)} {pid : Pid} {signal : Signal}

theorem Exchanged.trans {first second : List Exchange} (h : Exchanged w w' first) (h' : Exchanged w' w'' second) :
    Exchanged w w'' (first ++ second) where
  tracked := h'.tracked.trans h.tracked
  exits := by rw [h'.exits, h.exits, List.foldl_append]
  noted := by rw [h'.noted, h.noted, List.reverse_append, List.append_assoc]

/-- The notes begin when the watch does. -/
theorem Exchanged.exchanges_eq {s : Lifecycle σ} {exchanges : List Exchange}
    (h : Exchanged s.watch w exchanges) : w.host.exchanges.reverse = exchanges := by
  rw [h.noted]
  show (exchanges.reverse ++ []).reverse = exchanges
  rw [List.append_nil, List.reverse_reverse]

theorem callSignal_exchanged (L : Launcher σ) (w : Lifecycle (Watched σ)) (pid : Pid) (signal : Signal) :
    Exchanged w (w.callSignal L.watched pid signal).2
      [.signal pid signal (w.callSignal L.watched pid signal).1] :=
  ⟨rfl, rfl, rfl⟩

theorem callWait_exchanged (L : Launcher σ) (w : Lifecycle (Watched σ)) (pid : Pid) :
    Exchanged w (w.callWait L.watched pid).2 [.wait pid (w.callWait L.watched pid).1] := by
  rw [callWait_exits]
  exact ⟨rfl, rfl, rfl⟩

/-- What ending a child exchanges with the launcher, and what comes of it. -/
inductive Ends (pid : Pid) (signal : Signal) : List Exchange → Except LifecycleError Unit → Prop
  /-- The group was told to end, or was gone already, and then the child was waited for. It is no failure if there was
  no such child. -/
  | waited {signalled : Except LaunchError Unit} {status? : Option ChildStatus} (reached : Reached signalled) :
      Ends pid signal [.signal pid signal signalled, .wait pid (.ok status?)] (.ok ())
  /-- The wait failed. -/
  | notWaited {signalled : Except LaunchError Unit} {cause : LaunchError} (reached : Reached signalled) :
      Ends pid signal [.signal pid signal signalled, .wait pid (.error cause)] (.error (.launch cause))
  /-- The group could not be told to end, and nobody was waited for. -/
  | notSignalled {cause : LaunchError} (lasting : cause.isGone = false) :
      Ends pid signal [.signal pid signal (.error cause)] (.error (.launch cause))

/-- What a call that reaps a child exchanges with the launcher, and what comes of it. -/
inductive Reaps (pid : Pid) (exits : ExitRecord) : Exchange → Except LifecycleError Int32 → Prop
  | collected (status : ChildStatus) : Reaps pid exits (.wait pid (.ok (some status))) (.ok status.returnCode)
  /-- Somebody else has collected the child, and its status is on record. -/
  | recorded {status : ChildStatus} (found : exits.lookup pid = some status) :
      Reaps pid exits (.wait pid (.ok none)) (.ok status.returnCode)
  | unavailable (missing : exits.lookup pid = none) :
      Reaps pid exits (.wait pid (.ok none)) (.error (.statusUnavailable pid))
  | notWaited {cause : LaunchError} : Reaps pid exits (.wait pid (.error cause)) (.error (.launch cause))

/-- What a request to end the tracked child exchanges with the launcher, and what comes of it. -/
inductive Requests (child : Option Pid) (signal : Signal) : List Exchange → Except LifecycleError Bool → Prop
  /-- No child is tracked, and the launcher is not called. -/
  | tooEarly (untracked : child = none) : Requests child signal [] (.ok false)
  /-- The tracked child is ended. -/
  | served {pid : Pid} {exchanges : List Exchange} {ended : Except LifecycleError Unit} (tracked : child = some pid)
      (ends : Ends pid signal exchanges ended) : Requests child signal exchanges (ended.map fun _ => true)

theorem terminate_exchanged (L : Launcher σ) (w : Lifecycle (Watched σ)) (pid : Pid) (signal : Signal) :
    ∃ exchanges, Exchanged w (w.terminate L.watched pid signal).2 exchanges ∧
      Ends pid signal exchanges (w.terminate L.watched pid signal).1 := by
  have hsignalled := w.callSignal_exchanged L pid signal
  rcases w.signalGroup_cases L.watched pid signal with ⟨hreached, hsent⟩ | ⟨cause, hcause, hlasting, hfailed⟩
  · have hcall : w.terminate L.watched pid signal = (w.callSignal L.watched pid signal).2.collect L.watched pid := by
      unfold terminate
      rw [hsent]
    rw [hcall]
    generalize (w.callSignal L.watched pid signal).2 = w' at hsignalled ⊢
    have hwaited := hsignalled.trans (w'.callWait_exchanged L pid)
    unfold collect
    rcases hwait : w'.callWait L.watched pid with ⟨cause | status?, w''⟩ <;> rw [hwait] at hwaited
    · exact ⟨_, hwaited, .notWaited hreached⟩
    · exact ⟨_, hwaited, .waited hreached⟩
  · have hcall : w.terminate L.watched pid signal =
        (.error (.launch cause), (w.callSignal L.watched pid signal).2) := by
      unfold terminate
      rw [hfailed]
    rw [hcall]
    rw [hcause] at hsignalled
    exact ⟨_, hsignalled, .notSignalled hlasting⟩

theorem reap_exchanged (L : Launcher σ) (w : Lifecycle (Watched σ)) (pid : Pid) :
    ∃ exchange, Exchanged w (w.reap L.watched pid).2 [exchange] ∧
      Reaps pid w.exits exchange (w.reap L.watched pid).1 := by
  have hwaited := w.callWait_exchanged L pid
  unfold reap
  rcases hwait : w.callWait L.watched pid with ⟨cause | status?, w'⟩
  · rw [hwait] at hwaited
    exact ⟨_, hwaited, .notWaited⟩
  · rw [hwait] at hwaited
    cases status? with
    | some status => exact ⟨_, hwaited, .collected status⟩
    | none =>
      have hexits : w'.exits = w.exits := hwaited.exits
      simp only [hexits]
      cases hfound : w.exits.lookup pid with
      | none => exact ⟨_, hwaited, .unavailable hfound⟩
      | some status => exact ⟨_, hwaited, .recorded hfound⟩

theorem requestEnd_exchanged (L : Launcher σ) (w : Lifecycle (Watched σ)) (signal : Signal) :
    ∃ exchanges, Exchanged w (w.requestEnd L.watched signal).2 exchanges ∧
      Requests w.child signal exchanges (w.requestEnd L.watched signal).1 := by
  unfold requestEnd
  cases hchild : w.child with
  | none => exact ⟨[], ⟨rfl, rfl, rfl⟩, .tooEarly rfl⟩
  | some pid =>
    obtain ⟨exchanges, hexchanged, hends⟩ := w.terminate_exchanged L pid signal
    simp only
    rcases hcall : w.terminate L.watched pid signal with ⟨_ | _, w'⟩ <;> rw [hcall] at hexchanged hends
    · exact ⟨exchanges, hexchanged, .served rfl hends⟩
    · exact ⟨exchanges, hexchanged, .served rfl hends⟩

theorem launch_exchanged (L : Launcher σ) (w : Lifecycle (Watched σ)) (program : List String) (account : Account)
    (environment : Environment) :
    ∃ request, Exchanged w (w.launch L.watched program account environment).2
      [.spawn request (w.launch L.watched program account environment).1] := by
  obtain ⟨log, hlog⟩ := w.foldl_logged .warn ("Ignoring environment entry without '=': " ++ ·) environment.malformed
  unfold launch
  simp only [hlog]
  exact ⟨_, rfl, rfl, rfl⟩

end Lifecycle

end BatchJob
