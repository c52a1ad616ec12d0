import BatchJob.Proofs.Dataset.Reading

/-!
# Routing of output

A write or a close of a channel reaches one of the three output datasets and leaves the other two alone; which one
it is depends on whether the channel's primary destination is open at that moment, and that changes with the
operations themselves. What a dataset is called with is recorded by the dataset (`Recorded`), so that the
statements here are about the calls that arrive there, whatever the datasets do with them; recording changes
nothing else (`performAll_bare`).

Main statement: `routing_frame`.
-/

namespace BatchJob

/-! ## Recorded datasets -/

/-- A call to a dataset, with its answer. -/
inductive DatasetCall
  | read (answer : Attempt DatasetError Bytes)
  | write (bytes : Bytes) (answer : Except DatasetError Unit)
  | close (answer : Except DatasetError Unit)

/-- The bytes that a call passes to a dataset, whatever it answers. -/
def DatasetCall.passes? : DatasetCall → Option Bytes
  | .write bytes _ => some bytes
  | _ => none

/-- A dataset with the calls it has got, the last one first. -/
structure Recorded (δ : Type) where
  dataset : δ
  calls : List DatasetCall := []

/-- What a dataset was passed, in order. -/
def Recorded.received {δ : Type} (d : Recorded δ) : List Bytes :=
  d.calls.reverse.filterMap DatasetCall.passes?

instance {ω δ : Type} [DatasetStream ω δ] : DatasetStream ω (Recorded δ) where
  name d := DatasetStream.name ω d.dataset
  isOpen d := DatasetStream.isOpen ω d.dataset
  read n d machine :=
    let (answer, dataset, machine) := DatasetStream.read n d.dataset machine
    (answer, ⟨dataset, .read answer :: d.calls⟩, machine)
  write bytes d machine :=
    let (answer, dataset, machine) := DatasetStream.write bytes d.dataset machine
    (answer, ⟨dataset, .write bytes answer :: d.calls⟩, machine)
  close d machine :=
    let (answer, dataset, machine) := DatasetStream.close d.dataset machine
    (answer, ⟨dataset, .close answer :: d.calls⟩, machine)
  poll d machine := DatasetStream.poll d.dataset machine

namespace OutputRoutes

variable {ω δ : Type}

/-- Routes whose datasets record their calls. -/
def recorded (routes : OutputRoutes δ) : OutputRoutes (Recorded δ) where
  stdout := { dataset := routes.stdout }
  stderr := { dataset := routes.stderr }
  fallback := { dataset := routes.fallback }

/-- The routes without the records. -/
def bare (routes : OutputRoutes (Recorded δ)) : OutputRoutes δ where
  stdout := routes.stdout.dataset
  stderr := routes.stderr.dataset
  fallback := routes.fallback.dataset

@[simp] theorem get_bare (routes : OutputRoutes (Recorded δ)) (place : Destination) :
    routes.bare.get place = (routes.get place).dataset := by
  cases place <;> rfl

@[simp] theorem bare_set (routes : OutputRoutes (Recorded δ)) (place : Destination) (d : Recorded δ) :
    (routes.set place d).bare = routes.bare.set place d.dataset := by
  cases place <;> rfl

/-! ## Operations -/

/-- An operation on the output routes. -/
inductive Op
  /-- Write to where a channel goes. -/
  | write (channel : Channel) (bytes : Bytes)
  /-- Close where a channel goes. -/
  | close (channel : Channel)
  /-- Close all three datasets. -/
  | closeAll
  deriving DecidableEq, Repr

/-- The write that an operation is, if it is one. -/
def Op.written? : Op → Option (Channel × Bytes)
  | .write channel bytes => some (channel, bytes)
  | _ => none

variable [DatasetStream ω δ]

/-- Carries out an operation. -/
def perform (routes : OutputRoutes δ) (machine : ω) : Op → Except DatasetError Unit × OutputRoutes δ × ω
  | .write channel bytes => routes.writeTo (routes.sink ω channel) bytes machine
  | .close channel => routes.closeAt (routes.sink ω channel) machine
  | .closeAll => routes.closeAll machine

/-- Carries out operations one after another, whatever comes of them. -/
def performAll (routes : OutputRoutes δ) (machine : ω) : List Op → OutputRoutes δ × ω
  | [] => (routes, machine)
  | op :: ops => performAll (routes.perform machine op).2.1 (routes.perform machine op).2.2 ops

theorem performAll_append (routes : OutputRoutes δ) (machine : ω) (ops more : List Op) :
    routes.performAll machine (ops ++ more) =
      (routes.performAll machine ops).1.performAll (routes.performAll machine ops).2 more := by
  induction ops generalizing routes machine with
  | nil => rfl
  | cons op ops ih => exact ih _ _

/-- Bytes that were written for a channel, and where they went. -/
structure Passed where
  channel : Channel
  place : Destination
  bytes : Bytes
  deriving DecidableEq, Repr

/-- What an operation passes on. -/
def passed (ω : Type) [DatasetStream ω δ] (routes : OutputRoutes δ) : Op → List Passed
  | .write channel bytes => [⟨channel, routes.sink ω channel, bytes⟩]
  | _ => []

/-- What operations pass on, in order, each to where its channel goes at that moment. -/
def routing (routes : OutputRoutes δ) (machine : ω) : List Op → List Passed
  | [] => []
  | op :: ops =>
    routes.passed ω op ++ routing (routes.perform machine op).2.1 (routes.perform machine op).2.2 ops

/-! ## Recording changes nothing -/

section Bare

variable (routes : OutputRoutes (Recorded δ)) (machine : ω)

omit [DatasetStream ω δ] in
/-- An answer with what it leaves, without the records. -/
def bareResult (result : Except DatasetError Unit × OutputRoutes (Recorded δ) × ω) :
    Except DatasetError Unit × OutputRoutes δ × ω :=
  (result.1, result.2.1.bare, result.2.2)

theorem sink_bare (channel : Channel) : routes.bare.sink ω channel = routes.sink ω channel := by
  unfold sink
  rw [get_bare]
  rfl

theorem writeTo_bare (place : Destination) (bytes : Bytes) :
    routes.bare.writeTo place bytes machine = bareResult (routes.writeTo place bytes machine) := by
  unfold writeTo bareResult
  rw [get_bare, bare_set]
  rfl

theorem closeAt_bare (place : Destination) :
    routes.bare.closeAt place machine = bareResult (routes.closeAt place machine) := by
  unfold closeAt bareResult
  rw [get_bare, bare_set]
  rfl

theorem closeAll_bare : routes.bare.closeAll machine = bareResult (routes.closeAll machine) := by
  unfold closeAll
  simp only [closeAt_bare, bareResult]

theorem perform_bare (op : Op) : routes.bare.perform machine op = bareResult (routes.perform machine op) := by
  cases op with
  | write channel bytes =>
    show routes.bare.writeTo (routes.bare.sink ω channel) bytes machine = _
    rw [sink_bare, writeTo_bare]
    rfl
  | close channel =>
    show routes.bare.closeAt (routes.bare.sink ω channel) machine = _
    rw [sink_bare, closeAt_bare]
    rfl
  | closeAll => exact closeAll_bare routes machine

end Bare

theorem performAll_bare (routes : OutputRoutes (Recorded δ)) (machine : ω) (ops : List Op) :
    routes.bare.performAll machine ops =
      ((routes.performAll machine ops).1.bare, (routes.performAll machine ops).2) := by
  induction ops generalizing routes machine with
  | nil => rfl
  | cons op ops ih =>
    unfold performAll
    rw [perform_bare]
    exact ih _ _

theorem passed_bare (routes : OutputRoutes (Recorded δ)) (op : Op) : routes.bare.passed ω op = routes.passed ω op := by
  cases op with
  | write channel bytes =>
    show [(⟨channel, routes.bare.sink ω channel, bytes⟩ : Passed)] = _
    rw [sink_bare]
    rfl
  | close | closeAll => rfl

theorem routing_bare (routes : OutputRoutes (Recorded δ)) (machine : ω) (ops : List Op) :
    routes.bare.routing machine ops = routes.routing machine ops := by
  induction ops generalizing routes machine with
  | nil => rfl
  | cons op ops ih =>
    unfold routing
    rw [perform_bare, passed_bare]
    exact congrArg (routes.passed ω op ++ ·) (ih _ _)

/-! ## One operation -/

/-- Where a channel goes: to its primary destination if that is open, and to the fallback if it is not. -/
inductive GoesTo (ω : Type) [DatasetStream ω δ] (routes : OutputRoutes δ) (channel : Channel) : Destination → Prop
  | primary (isOpen : DatasetStream.isOpen ω (routes.get (primary channel)) = true) :
      GoesTo ω routes channel (primary channel)
  | fallback (unopened : DatasetStream.isOpen ω (routes.get (OutputRoutes.primary channel)) = false) :
      GoesTo ω routes channel .fallback

theorem goesTo_sink (routes : OutputRoutes δ) (channel : Channel) :
    GoesTo ω routes channel (routes.sink ω channel) := by
  unfold sink
  split
  next hopen => exact .primary hopen
  next hshut => exact .fallback (by simpa using hshut)

theorem GoesTo.sink_eq {routes : OutputRoutes δ} {channel : Channel} {place : Destination}
    (h : GoesTo ω routes channel place) : routes.sink ω channel = place := by
  unfold sink
  cases h with
  | primary hopen => rw [if_pos hopen]
  | fallback hshut => rw [hshut, if_neg Bool.false_ne_true]

/-- One dataset has got a call, and the other two are untouched. -/
structure Reaches (place : Destination) (call : DatasetCall) (before after : OutputRoutes (Recorded δ)) : Prop where
  called : (after.get place).calls = call :: (before.get place).calls
  untouched : ∀ other, other ≠ place → after.get other = before.get other

/-- The order in which the datasets are closed. -/
def closingOrder : List Destination := [.stdout, .stderr, .fallback]

/-- What an operation with an answer has done to the datasets. -/
inductive Routed (ω : Type) [DatasetStream ω δ] (before after : OutputRoutes (Recorded δ))
    (answer : Except DatasetError Unit) : Op → Prop
  /-- A write reaches where its channel goes. -/
  | wrote {channel : Channel} {bytes : Bytes} {place : Destination} (goes : GoesTo ω before channel place)
      (reaches : Reaches place (.write bytes answer) before after) : Routed ω before after answer (.write channel bytes)
  /-- So does a close. -/
  | closed {channel : Channel} {place : Destination} (goes : GoesTo ω before channel place)
      (reaches : Reaches place (.close answer) before after) : Routed ω before after answer (.close channel)
  /-- Closing all of them closes each once, and answers the first failure. -/
  | closedAll (answers : Destination → Except DatasetError Unit)
      (called : ∀ place, (after.get place).calls = .close (answers place) :: (before.get place).calls)
      (first : answer = ((closingOrder.map answers).find? fun answer => !answer.isOk).getD (.ok ())) :
      Routed ω before after answer .closeAll

section Record

variable (routes : OutputRoutes (Recorded δ)) (machine : ω)

theorem writeTo_reaches (place : Destination) (bytes : Bytes) :
    Reaches place (.write bytes (routes.writeTo place bytes machine).1) routes
      (routes.writeTo place bytes machine).2.1 where
  called := by
    unfold writeTo
    rw [get_set]
    rfl
  untouched other h := get_set_ne h _ _

theorem closeAt_reaches (place : Destination) :
    Reaches place (.close (routes.closeAt place machine).1) routes (routes.closeAt place machine).2.1 where
  called := by
    unfold closeAt
    rw [get_set]
    rfl
  untouched other h := get_set_ne h _ _

/-- Each dataset is closed once, whatever the ones before it have answered. -/
theorem closeAll_routed : Routed ω routes (routes.closeAll machine).2.1 (routes.closeAll machine).1 .closeAll := by
  let first := routes.closeAt .stdout machine
  let second := first.2.1.closeAt .stderr first.2.2
  let third := second.2.1.closeAt .fallback second.2.2
  have hstdout : Reaches .stdout (.close first.1) routes first.2.1 := closeAt_reaches ..
  have hstderr : Reaches .stderr (.close second.1) first.2.1 second.2.1 := closeAt_reaches ..
  have hfallback : Reaches .fallback (.close third.1) second.2.1 third.2.1 := closeAt_reaches ..
  let answers : OutputRoutes (Except DatasetError Unit) :=
    { stdout := first.1, stderr := second.1, fallback := third.1 }
  refine .closedAll answers.get (fun place => ?_) ?_
  · show (third.2.1.get place).calls = _
    cases place with
    | stdout =>
      rw [hfallback.untouched .stdout (by decide), hstderr.untouched .stdout (by decide)]
      exact hstdout.called
    | stderr =>
      rw [hfallback.untouched .stderr (by decide), ← hstdout.untouched .stderr (by decide)]
      exact hstderr.called
    | fallback =>
      rw [← hstdout.untouched .fallback (by decide), ← hstderr.untouched .fallback (by decide)]
      exact hfallback.called
  · show firstFailure first.1 (firstFailure second.1 third.1) =
      (([first.1, second.1, third.1] : List _).find? fun answer => !answer.isOk).getD (.ok ())
    rcases first.1 with e | ⟨⟩
    · rfl
    · rcases second.1 with e | ⟨⟩
      · rfl
      · rcases third.1 with e | ⟨⟩ <;> rfl

/-- **An operation on a channel reaches one dataset and leaves the other two alone, and closing all of them reaches
each once.** -/
theorem perform_routed (op : Op) :
    Routed ω routes (routes.perform machine op).2.1 (routes.perform machine op).1 op := by
  cases op with
  | write channel bytes => exact .wrote (goesTo_sink routes channel) (writeTo_reaches ..)
  | close channel => exact .closed (goesTo_sink routes channel) (closeAt_reaches ..)
  | closeAll => exact closeAll_routed routes machine

end Record

/-! ## What the datasets receive -/

section Received

variable {before after : OutputRoutes (Recorded δ)} {answer : Except DatasetError Unit} {op : Op}

omit [DatasetStream ω δ] in
theorem received_of_calls {d d' : Recorded δ} {call : DatasetCall} (called : d'.calls = call :: d.calls) :
    d'.received = d.received ++ call.passes?.toList := by
  unfold Recorded.received
  rw [called, List.reverse_cons, List.filterMap_append]
  cases hpasses : call.passes? <;> simp [hpasses]

/-- A dataset is passed what the operation passes on to its place. -/
theorem Routed.received (h : Routed ω before after answer op) (place : Destination) :
    (after.get place).received = (before.get place).received ++
      ((before.passed ω op).filter (·.place = place)).map (·.bytes) := by
  cases h with
  | @wrote channel bytes target goes reaches =>
    have htarget : before.sink ω channel = target := goes.sink_eq
    by_cases hplace : place = target
    · subst hplace
      rw [received_of_calls reaches.called]
      simp [passed, htarget, DatasetCall.passes?]
    · rw [reaches.untouched place hplace]
      simp [passed, htarget, Ne.symm hplace]
  | @closed channel target goes reaches =>
    by_cases hplace : place = target
    · subst hplace
      rw [received_of_calls reaches.called]
      rfl
    · rw [reaches.untouched place hplace]
      simp [passed]
  | closedAll answers called =>
    rw [received_of_calls (called place)]
    rfl

end Received

/-- A dataset is passed, in order, what the operations pass on to its place. -/
theorem received_performAll (routes : OutputRoutes (Recorded δ)) (machine : ω) (ops : List Op) (place : Destination) :
    ((routes.performAll machine ops).1.get place).received = (routes.get place).received ++
      ((routes.routing machine ops).filter (·.place = place)).map (·.bytes) := by
  induction ops generalizing routes machine with
  | nil => exact (List.append_nil _).symm
  | cons op ops ih =>
    unfold performAll routing
    rw [ih, (perform_routed routes machine op).received place, List.filter_append, List.map_append, List.append_assoc]

/-- The operations pass on what they write, in order. -/
theorem routing_written (routes : OutputRoutes δ) (machine : ω) (ops : List Op) :
    (routes.routing machine ops).map (fun passed => (passed.channel, passed.bytes)) = ops.filterMap Op.written? := by
  induction ops generalizing routes machine with
  | nil => rfl
  | cons op ops ih =>
    unfold routing
    rw [List.map_append, ih]
    cases op with
    | write | close | closeAll => rfl

/-- What is passed on for a channel goes to its primary destination or to the fallback. -/
theorem place_of_routing {routes : OutputRoutes δ} {machine : ω} {ops : List Op} {passed : Passed}
    (h : passed ∈ routes.routing machine ops) :
    passed.place = primary passed.channel ∨ passed.place = .fallback := by
  induction ops generalizing routes machine with
  | nil => cases h
  | cons op ops ih =>
    rcases List.mem_append.mp h with hnow | hlater
    · cases op with
      | write channel bytes =>
        cases List.mem_singleton.mp hnow
        show routes.sink ω channel = primary channel ∨ routes.sink ω channel = .fallback
        unfold sink
        split
        next => exact .inl rfl
        next => exact .inr rfl
      | close | closeAll => cases hnow
    · exact ih hlater

/-! ## The main statement -/

/-- **Routing of output, for any routes and any operations on them.** Whatever the three datasets do:

* each write and each close of a channel makes one call, to the channel's primary destination if that is open and
  to the fallback if it is not, and leaves the other two datasets as they are; closing all three calls each once,
  whatever the others answer, and answers the first failure in the order of the calls (`Routed`);
* what is passed on is what was written, in order, and each dataset is passed its part of it in that order;
* the dataset for errors is passed bytes of the error channel only, and the one for output bytes of the other
  channels only.

The calls are those that recorded datasets get, and the records change nothing. -/
theorem routing_frame (routes : OutputRoutes δ) (machine : ω) (ops : List Op) :
    let run := routes.recorded.performAll machine
    let passed := routes.routing machine ops
    ((run ops).1.bare, (run ops).2) = routes.performAll machine ops ∧
    (∀ earlier op later, ops = earlier ++ op :: later →
      Routed ω (run earlier).1 (run (earlier ++ [op])).1 ((run earlier).1.perform (run earlier).2 op).1 op) ∧
    passed.map (fun passed => (passed.channel, passed.bytes)) = ops.filterMap Op.written? ∧
    (∀ place, ((run ops).1.get place).received = (passed.filter (·.place = place)).map (·.bytes)) ∧
    ∀ p ∈ passed, (p.place = .stderr → p.channel = .stderr) ∧ (p.place = .stdout → p.channel ≠ .stderr) := by
  intro run passed
  refine ⟨(performAll_bare routes.recorded machine ops).symm, fun earlier op later _ => ?_, routing_written ..,
    fun place => ?_, fun p hp => ?_⟩
  · have hrun : (run (earlier ++ [op])).1 = ((run earlier).1.perform (run earlier).2 op).2.1 :=
      congrArg Prod.fst (performAll_append routes.recorded machine earlier [op])
    rw [hrun]
    exact perform_routed ..
  · have hempty : (routes.recorded.get place).received = [] := by cases place <;> rfl
    rw [received_performAll, hempty, List.nil_append, ← routing_bare]
    rfl
  · rcases place_of_routing hp with hprimary | hfallback
    · rw [hprimary]
      cases p.channel <;> decide
    · rw [hfallback]
      exact ⟨nofun, nofun⟩

/-- A channel goes to the fallback from the moment on when its primary destination is closed. -/
example :
    let routes : OutputRoutes Rehearsal.MemoryDataset :=
      { stdout := { name := "STDOUT" }, stderr := { name := "STDERR", isOpen := false },
        fallback := { name := "SYSOUT" } }
    let after := (routes.performAll () [.write .stdout [1], .write .stderr [2], .close .stdout, .write .stdout [3]]).1
    after.stdout.written = [[1]] ∧ after.stderr.writes = 0 ∧ after.fallback.written = [[3], [2]] := by
  decide

end OutputRoutes

end BatchJob
