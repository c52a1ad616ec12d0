import BatchJob.Proofs.Pipe.Transfer
import BatchJob.Relay.Basic

/-!
# One step of the relay, case by case

`Turn r r'` lists what one step of a run can do, each case with what it found: the two ways in which the
head of the loop ends the run, a wait that reports something (`LoopHead`), and what carrying out the first
task of the agenda comes to (`Deed`). `turn_of_turn?` says that the relay does nothing else; invariants of
a run go by the cases of `Turn` and never look at the step function again.

`run_keeps` and `run_induction` are the other half: what holds at the start, and what every event keeps, holds
after every schedule.
-/

namespace BatchJob.Relay

variable {ω ι δ : Type} [DatasetStream ω ι] [DatasetStream ω δ] {r r' : Relay ω ι δ}

/-- What the head of the loop does. -/
inductive LoopHead (r : Relay ω ι δ) : Relay ω ι δ → Prop
  /-- The outputs are drained, and the run ends. -/
  | drained (draining : r.draining = true) (atEnd : r.outputsDrained = true) :
      LoopHead r { r with outcome := some (.ok ()) }
  /-- A wait reports the signal and nothing else, which ends the run. -/
  | stopped (undrained : (r.draining && r.outputsDrained) = false) (policy : r.policy = .signalOnly)
      (fired : r.ready.shutdown = true) (still : r.ready.anyDescriptor = false) :
      LoopHead r { r with stats := r.stats.countWait, outcome := some (.ok ()) }
  /-- A wait reports something to do, or the signal to one who drains. -/
  | woken (undrained : (r.draining && r.outputsDrained) = false) (some : r.ready.any = true)
      (goesOn : r.policy = .signalOnly → r.ready.shutdown = true → r.ready.anyDescriptor = true) :
      LoopHead r
        { r with
          stats := r.stats.countWait
          agenda := tasks r.ready
          draining := r.draining || (r.policy == .drainToEof && r.ready.shutdown) }

/-- What the next read of the input comes to. -/
def nextRead (r : Relay ω ι δ) : Attempt DatasetError Bytes × ι × ω :=
  DatasetStream.read r.bufferSize r.input r.machine

/-- A task that offers what is left of the chunk in flight to the child. -/
def Offers (r : Relay ω ι δ) (task : RelayTask) : Prop :=
  task = .sendChunk ∨ task = .serveInput ∧ r.pending ≠ []

/-- What carrying out a task does. -/
inductive Deed (r : Relay ω ι δ) (rest : List RelayTask) : RelayTask → Relay ω ι δ → Prop
  | unblocked {stdin : Pipe} (isOpen : DatasetStream.isOpen ω r.input = true)
      (set : r.plumbing.stdin.setNonblocking .write = .ok stdin) :
      Deed r rest .start { r with plumbing := { r.plumbing with stdin }, agenda := rest }
  | alreadyClosed (isOpen : DatasetStream.isOpen ω r.input = true) (shut : r.plumbing.stdin.writeOpen = false) :
      Deed r rest .start { r with agenda := rest }
  | noInput (unopened : DatasetStream.isOpen ω r.input = false) : Deed r rest .start (r.finishInput rest)
  | readFailed {e : DatasetError} {input : ι} {machine : ω} (used : r.pending = [])
      (read : r.nextRead = (.failed e, input, machine)) :
      Deed r rest .serveInput (({ r with input, machine }.noted (.read (.error e))).fail (.dataset e))
  | inputEnded {input : ι} {machine : ω} (used : r.pending = [])
      (read : r.nextRead = (.done [], input, machine)) :
      Deed r rest .serveInput (({ r with input, machine }.noted (.read (.ok []))).finishInput rest)
  | refilled {bytes : Bytes} {input : ι} {machine : ω} (used : r.pending = [])
      (read : r.nextRead = (.done bytes, input, machine)) (some : bytes ≠ []) :
      Deed r rest .serveInput
        { { r with input, machine }.noted (.read (.ok bytes)) with
          chunk := bytes, taken := 0, agenda := .sendChunk :: rest }
  | sent {task : RelayTask} {n : Nat} {stdin : Pipe} (offers : r.Offers task)
      (write : r.plumbing.stdin.write r.pending = (.done n, stdin)) :
      Deed r rest task
        { r with
          plumbing := { r.plumbing with stdin }
          taken := r.taken + n
          stats := r.stats.add .stdin n
          agenda := rest }
  | refused {task : RelayTask} {e : PipeError} {stdin : Pipe} (offers : r.Offers task)
      (write : r.plumbing.stdin.write r.pending = (.failed e, stdin)) (full : e.isWouldBlock = true) :
      Deed r rest task { r with agenda := rest }
  | broken {task : RelayTask} {e : PipeError} {stdin : Pipe} (offers : r.Offers task)
      (write : r.plumbing.stdin.write r.pending = (.failed e, stdin)) (broken : e.isBroken = true) :
      Deed r rest task (r.finishInput rest)
  | sendFailed {task : RelayTask} {e : PipeError} {stdin : Pipe} (offers : r.Offers task)
      (write : r.plumbing.stdin.write r.pending = (.failed e, stdin)) (notFull : e.isWouldBlock = false)
      (notBroken : e.isBroken = false) :
      Deed r rest task (r.fail (.pipe e))
  | inputClosed {input : ι} {machine : ω}
      (close : DatasetStream.close r.input r.machine = (.ok (), input, machine)) :
      Deed r rest .closeInput { { r with input, machine }.noted (.close (.ok ())) with agenda := rest }
  | closeFailed {e : DatasetError} {input : ι} {machine : ω}
      (close : DatasetStream.close r.input r.machine = (.error e, input, machine)) :
      Deed r rest .closeInput (({ r with input, machine }.noted (.close (.error e))).fail (.dataset e))
  | outputEnded {c : OutputChannel} {pipe : Pipe}
      (read : (r.plumbing.output c).read r.bufferSize = (.done [], pipe)) :
      Deed r rest (.serveOutput c)
        { r with plumbing := r.plumbing.setOutput c (pipe.close .read), agenda := rest }
  | outputRead {c : OutputChannel} {bytes : Bytes} {pipe : Pipe}
      (read : (r.plumbing.output c).read r.bufferSize = (.done bytes, pipe)) (some : bytes ≠ []) :
      Deed r rest (.serveOutput c)
        { r with plumbing := r.plumbing.setOutput c pipe, agenda := .deliver c bytes :: rest }
  | outputFailed {c : OutputChannel} {e : PipeError} {pipe : Pipe}
      (read : (r.plumbing.output c).read r.bufferSize = (.failed e, pipe)) :
      Deed r rest (.serveOutput c) (r.fail (.pipe e))
  | delivered {c : OutputChannel} {chunk : Bytes} {place : Destination} {outputs : OutputRoutes δ} {machine : ω}
      (sink : place = r.outputs.sink ω c.toChannel)
      (write : r.outputs.writeTo place chunk r.machine = (.ok (), outputs, machine)) :
      Deed r rest (.deliver c chunk)
        { { r with outputs, machine }.noted (.write c place chunk (.ok ())) with
          stats := r.stats.add c.toChannel chunk.length, agenda := rest }
  | deliverFailed {c : OutputChannel} {chunk : Bytes} {place : Destination} {e : DatasetError}
      {outputs : OutputRoutes δ} {machine : ω} (sink : place = r.outputs.sink ω c.toChannel)
      (write : r.outputs.writeTo place chunk r.machine = (.error e, outputs, machine)) :
      Deed r rest (.deliver c chunk)
        (({ r with outputs, machine }.noted (.write c place chunk (.error e))).fail (.dataset e))

/-- What one step of a run does. -/
inductive Turn (r : Relay ω ι δ) : Relay ω ι δ → Prop
  | head {r' : Relay ω ι δ} (running : r.outcome = none) (idle : r.agenda = []) (head : LoopHead r r') :
      Turn r r'
  | deed {r' : Relay ω ι δ} {task : RelayTask} {rest : List RelayTask} (running : r.outcome = none)
      (next : r.agenda = task :: rest) (deed : Deed r rest task r') : Turn r r'

/-! ## The relay does nothing else -/

omit [DatasetStream ω δ] in
theorem head_of_loopHead? (h : r.loopHead? = some r') : LoopHead r r' := by
  unfold loopHead? at h
  split at h
  next hd =>
    cases h
    rw [Bool.and_eq_true] at hd
    exact .drained hd.1 hd.2
  next hd =>
    rw [Bool.not_eq_true] at hd
    unfold wait? at h
    simp only at h
    split at h
    next hany =>
      split at h
      next policy hpolicy =>
        split at h
        next hstop =>
          cases h
          simp only [Bool.and_eq_true, Bool.not_eq_true'] at hstop
          exact .stopped hd hpolicy hstop.1 hstop.2
        next hgo =>
          cases h
          have hw := LoopHead.woken hd hany fun _ hfired => by simpa [hfired] using hgo
          -- under this policy the run never drains
          have hkeep : (r.policy == .drainToEof) = false := by rw [hpolicy]; rfl
          rw [hkeep, Bool.false_and, Bool.or_false] at hw
          exact hw
      next policy hpolicy =>
        cases h
        have hw := LoopHead.woken hd hany fun hsignal => by
          rw [hsignal] at hpolicy
          cases hpolicy
        have hdrain : (r.policy == .drainToEof) = true := by rw [hpolicy]; rfl
        rw [hdrain, Bool.true_and] at hw
        exact hw
    next => cases h

theorem deed_of_refill? {rest : List RelayTask} (used : r.pending = []) (h : r.refill? rest = some r') :
    Deed r rest .serveInput r' := by
  unfold refill? at h
  split at h
  next => cases h
  next e input machine hread =>
    cases h
    exact .readFailed used hread
  next bytes input machine hread =>
    simp only at h
    split at h
    next hnil =>
      cases h
      have hnil : bytes = [] := by simpa using hnil
      subst hnil
      exact .inputEnded used hread
    next hsome =>
      cases h
      exact .refilled used hread (by simpa using hsome)

theorem deed_of_send? {task : RelayTask} {rest : List RelayTask} (offers : r.Offers task)
    (h : r.send? rest = some r') : Deed r rest task r' := by
  unfold send? at h
  split at h
  next => cases h
  next n stdin hwrite =>
    cases h
    exact .sent offers hwrite
  next e stdin hwrite =>
    split at h
    next hfull =>
      cases h
      exact .refused offers hwrite hfull
    next hfull =>
      split at h
      next hbroken =>
        cases h
        exact .broken offers hwrite hbroken
      next hbroken =>
        cases h
        exact .sendFailed offers hwrite (by simpa using hfull) (by simpa using hbroken)

theorem deed_of_readOutput? {c : OutputChannel} {rest : List RelayTask}
    (h : r.readOutput? c rest = some r') : Deed r rest (.serveOutput c) r' := by
  unfold readOutput? at h
  split at h
  next => cases h
  next e pipe hread =>
    cases h
    exact .outputFailed hread
  next bytes pipe hread =>
    split at h
    next hnil =>
      cases h
      have hnil : bytes = [] := by simpa using hnil
      subst hnil
      exact .outputEnded hread
    next hsome =>
      cases h
      exact .outputRead hread (by simpa using hsome)

theorem deed_start (r : Relay ω ι δ) (rest : List RelayTask) : Deed r rest .start (r.start rest) := by
  unfold start
  split
  next hopen =>
    split
    next stdin hset => exact .unblocked hopen hset
    next e hset =>
      -- only a closed end cannot be set
      refine .alreadyClosed hopen ?_
      cases hw : r.plumbing.stdin.writeOpen with
      | false => rfl
      | true => simp [Pipe.setNonblocking, Pipe.isOpen, hw] at hset
  next hopen => exact .noInput (by simpa using hopen)

theorem deed_closeInput (r : Relay ω ι δ) (rest : List RelayTask) :
    Deed r rest .closeInput (r.closeInput rest) := by
  unfold closeInput
  rcases hclose : DatasetStream.close r.input r.machine with ⟨result, input, machine⟩
  cases result with
  | ok => exact .inputClosed hclose
  | error e => exact .closeFailed hclose

theorem deed_deliver (r : Relay ω ι δ) (c : OutputChannel) (chunk : Bytes) (rest : List RelayTask) :
    Deed r rest (.deliver c chunk) (r.deliver c chunk rest) := by
  unfold deliver
  rcases hwrite : r.outputs.writeTo (r.outputs.sink ω c.toChannel) chunk r.machine with
    ⟨result, outputs, machine⟩
  simp only [hwrite]
  cases result with
  | ok => exact .delivered rfl hwrite
  | error e => exact .deliverFailed rfl hwrite

theorem deed_of_perform? {task : RelayTask} {rest : List RelayTask} (h : r.perform? task rest = some r') :
    Deed r rest task r' := by
  cases task with
  | start =>
    cases h
    exact deed_start r rest
  | serveInput =>
    simp only [perform?] at h
    split at h
    next hnil => exact deed_of_refill? (by simpa using hnil) h
    next hsome => exact deed_of_send? (.inr ⟨rfl, by simpa using hsome⟩) h
  | sendChunk => exact deed_of_send? (.inl rfl) h
  | closeInput =>
    cases h
    exact deed_closeInput r rest
  | serveOutput c => exact deed_of_readOutput? h
  | deliver c chunk =>
    cases h
    exact deed_deliver r c chunk rest

/-- **The relay's step is a `Turn`.** -/
theorem turn_of_turn? (h : r.turn? = some r') : Turn r r' := by
  unfold turn? at h
  split at h
  next => cases h
  next hrunning =>
    split at h
    next hidle => exact .head hrunning hidle (head_of_loopHead? h)
    next task rest hnext => exact .deed hrunning hnext (deed_of_perform? h)

/-! ## Where the next step is known -/

/-- The next step is a wait. -/
structure Waits (r : Relay ω ι δ) : Prop where
  running : r.outcome = none
  idle : r.agenda = []
  undrained : (r.draining && r.outputsDrained) = false

/-- With an empty agenda the relay is at the head of the loop. -/
theorem turn?_idle (running : r.outcome = none) (idle : r.agenda = []) : r.turn? = r.loopHead? := by
  unfold turn?
  rw [running, idle]

/-- With a task on the agenda the relay carries it out. -/
theorem turn?_task {task : RelayTask} {rest : List RelayTask} (running : r.outcome = none)
    (next : r.agenda = task :: rest) : r.turn? = r.perform? task rest := by
  unfold turn?
  rw [running, next]

theorem Waits.turn?_eq (h : r.Waits) : r.turn? = r.wait? := by
  rw [turn?_idle h.running h.idle]
  unfold loopHead?
  rw [h.undrained, if_neg Bool.false_ne_true]

/-! ## What never changes -/

/-- A step changes neither the policy nor the size of the buffer. -/
theorem Turn.settings (h : Turn r r') : r'.policy = r.policy ∧ r'.bufferSize = r.bufferSize := by
  cases h with
  | head _ _ head => cases head <;> exact ⟨rfl, rfl⟩
  | deed _ _ deed => cases deed <;> exact ⟨rfl, rfl⟩

/-- A step keeps the calls made before it and adds at most one. -/
theorem Turn.calls (h : Turn r r') : r'.history = r.history ∨ ∃ call, r'.history = call :: r.history := by
  cases h with
  | head _ _ head => cases head <;> exact .inl rfl
  | deed _ _ deed => cases deed <;> first | exact .inl rfl | exact .inr ⟨_, rfl⟩

/-! ## Runs -/

@[simp] theorem run_nil (r : Relay ω ι δ) : r.run [] = r := rfl

@[simp] theorem run_cons (r : Relay ω ι δ) (e : Event ω) (schedule : List (Event ω)) :
    r.run (e :: schedule) = (r.advance e).run schedule := rfl

theorem run_append (r : Relay ω ι δ) (s t : List (Event ω)) : r.run (s ++ t) = (r.run s).run t :=
  List.foldl_append

theorem advance_turn (h : r.turn? = some r') : r.advance .turn = r' := by
  show r.turn?.getD r = r'
  rw [h]
  rfl

theorem advance_stay (h : r.turn? = none) : r.advance .turn = r := by
  show r.turn?.getD r = r
  rw [h]
  rfl

/-- An event is an action of another party on the plumbing or on the machine, a step, or nothing. -/
theorem advance_cases {P : Relay ω ι δ → Prop} (r : Relay ω ι δ) (e : Event ω)
    (outside : ∀ action, e = .outside action → P { r with plumbing := r.plumbing.perform action })
    (elsewhere : ∀ change : ω → ω, e = .elsewhere change → P { r with machine := change r.machine })
    (turn : ∀ r', Turn r r' → P r') (stay : P r) : P (r.advance e) := by
  cases e with
  | outside action => exact outside action rfl
  | elsewhere change => exact elsewhere change rfl
  | turn =>
    cases h : r.turn? with
    | none =>
      rw [advance_stay h]
      exact stay
    | some r' =>
      rw [advance_turn h]
      exact turn r' (turn_of_turn? h)

/-- What each event of a schedule keeps, a run keeps. -/
theorem run_keeps {P : Relay ω ι δ → Prop} :
    ∀ (schedule : List (Event ω)) (r : Relay ω ι δ), (∀ e ∈ schedule, ∀ r, P r → P (r.advance e)) → P r →
      P (r.run schedule)
  | [], _, _, h => h
  | e :: schedule, r, keep, h =>
    run_keeps schedule (r.advance e) (fun e he => keep e (List.mem_cons_of_mem _ he))
      (keep e List.mem_cons_self r h)

/-- What does not hold at the start of a run and holds at its end, comes to hold with one of the events. -/
theorem run_crossing {P : Relay ω ι δ → Prop} :
    ∀ (schedule : List (Event ω)) (r : Relay ω ι δ), ¬ P r → P (r.run schedule) →
      ∃ s e t, schedule = s ++ e :: t ∧ ¬ P (r.run s) ∧ P ((r.run s).advance e)
  | [], _, before, after => absurd after before
  | e :: schedule, r, before, after => by
    by_cases hnext : P (r.advance e)
    · exact ⟨[], e, schedule, rfl, before, hnext⟩
    · obtain ⟨s, e', t, rfl, hbefore, hafter⟩ := run_crossing schedule (r.advance e) hnext after
      exact ⟨e :: s, e', t, rfl, hbefore, hafter⟩

/-- What actions of other parties and steps keep, a run keeps. -/
theorem run_induction {P : Relay ω ι δ → Prop}
    (outside : ∀ r action, P r → P { r with plumbing := r.plumbing.perform action })
    (elsewhere : ∀ r (change : ω → ω), P r → P { r with machine := change r.machine })
    (turn : ∀ r r', P r → Turn r r' → P r') (schedule : List (Event ω)) (r : Relay ω ι δ) (h : P r) :
    P (r.run schedule) :=
  run_keeps schedule r (fun e _ r h => advance_cases r e (fun action _ => outside r action h)
    (fun change _ => elsewhere r change h) (turn r · h) h) h

/-- A run changes neither the policy nor the size of the buffer. -/
theorem settings_run (r : Relay ω ι δ) (schedule : List (Event ω)) :
    (r.run schedule).policy = r.policy ∧ (r.run schedule).bufferSize = r.bufferSize :=
  run_induction (P := fun r' => r'.policy = r.policy ∧ r'.bufferSize = r.bufferSize) (fun _ _ h => h)
    (fun _ _ h => h) (fun _ _ h turn => ⟨turn.settings.1.trans h.1, turn.settings.2.trans h.2⟩) schedule r
    ⟨rfl, rfl⟩

end BatchJob.Relay
