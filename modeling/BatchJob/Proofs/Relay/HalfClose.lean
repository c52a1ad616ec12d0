import BatchJob.Proofs.Relay.Input

/-!
# The half-close of the child's input

A run closes its end of the child's input at most once, and then closes the input dataset. It does so for one of
three reasons (`HalfCloses`): the input was not open when the run began, the input has come to its end with nothing
left of the chunk in flight, or nobody reads the child's input any more. From then on the run neither reads the
input nor writes to the child.

`HalfCloseInv` says where a run is before, at and after its half-close. It does not depend on what was relayed
before the run began, so that everything here holds of every single run of a relay (`Begins`).

Main statement: `halfCloses_once`.
-/

namespace BatchJob

/-- Whether a call closes the input. -/
def RelayCall.isClose : RelayCall → Bool
  | .close _ => true
  | _ => false

namespace Relay

variable {ω ι δ : Type} {r r' : Relay ω ι δ}

/-- A run is about to begin; it has made no call yet. -/
structure Begins (r : Relay ω ι δ) : Prop where
  running : r.outcome = none
  agenda : r.agenda = [.start]
  history : r.history = []

theorem begins_create (p : Plumbing) (machine : ω) (input : ι) (outputs : OutputRoutes δ) (policy : StopPolicy)
    (bufferSize : Nat) : Begins (create p machine input outputs policy bufferSize) :=
  ⟨rfl, rfl, rfl⟩

/-- How often a run has read the input. -/
def reads (r : Relay ω ι δ) : Nat := r.history.countP RelayCall.isRead

/-- How often a run has closed the input. -/
def closes (r : Relay ω ι δ) : Nat := r.history.countP RelayCall.isClose

variable [DatasetStream ω ι] [DatasetStream ω δ]

/-! ## The reasons -/

/-- The next step closes the child's input. -/
inductive HalfCloses (r : Relay ω ι δ) : Prop
  /-- The run begins with an input that is not open. -/
  | unopened {rest : List RelayTask} (running : r.outcome = none) (next : r.agenda = .start :: rest)
      (unopened : DatasetStream.isOpen ω r.input = false)
  /-- The input is at its end, and nothing is left of the chunk in flight. -/
  | ended {rest : List RelayTask} {input : ι} {machine : ω} (running : r.outcome = none)
      (next : r.agenda = .serveInput :: rest) (used : r.pending = []) (read : r.nextRead = (.done [], input, machine))
  /-- Nobody reads what is left of the chunk in flight. -/
  | broken {task : RelayTask} {rest : List RelayTask} {e : PipeError} {stdin : Pipe} (running : r.outcome = none)
      (next : r.agenda = task :: rest) (offers : r.Offers task)
      (write : r.plumbing.stdin.write r.pending = (.failed e, stdin)) (broken : e.isBroken = true)

/-- **A step leaves the relay's end of the child's input as it is, or closes it for one of the three reasons** and
goes on to close the input dataset. -/
theorem Turn.writeOpen_cases (h : Turn r r') :
    r'.plumbing.stdin.writeOpen = r.plumbing.stdin.writeOpen ∨
      (r.HalfCloses ∧ r'.plumbing.stdin.writeOpen = false ∧ ∃ rest, r'.agenda = .closeInput :: rest) := by
  cases h with
  | head _ _ head => exact .inl (congrArg Pipe.writeOpen head.sides.2.stdin)
  | deed running next deed =>
    rcases deed.side with ⟨input, -⟩ | ⟨-, same⟩
    · cases deed with
      | unblocked isOpen set =>
        cases Pipe.setNonblocking_ok set
        exact .inl rfl
      | sent offers write =>
        have hends := (Pipe.offer_done (Pipe.write_done write).2).1
        exact .inl (by rw [hends])
      | noInput unopened => exact .inr ⟨.unopened running next unopened, rfl, _, rfl⟩
      | inputEnded used read => exact .inr ⟨.ended running next used read, rfl, _, rfl⟩
      | broken offers write broken => exact .inr ⟨.broken running next offers write broken, rfl, _, rfl⟩
      | alreadyClosed | readFailed | refilled | refused | sendFailed | inputClosed | closeFailed => exact .inl rfl
      | _ => cases input
    · exact .inl (congrArg Pipe.writeOpen same.stdin)

/-- For each of the reasons the next step does close the child's input. -/
theorem HalfCloses.closes (h : r.HalfCloses) : ∃ r', r.turn? = some r' ∧ r'.plumbing.stdin.writeOpen = false := by
  cases h with
  | @unopened rest running next unopened =>
    refine ⟨r.finishInput rest, ?_, rfl⟩
    rw [turn?_task running next]
    show some (r.start _) = _
    unfold start
    rw [unopened, if_neg Bool.false_ne_true]
  | @ended rest input machine running next used read =>
    refine ⟨({ r with input, machine }.noted (.read (.ok []))).finishInput rest, ?_, rfl⟩
    rw [turn?_task running next]
    show (if r.pending.isEmpty then r.refill? rest else r.send? rest) = _
    rw [used, List.isEmpty_nil, if_pos rfl]
    unfold refill?
    rw [show DatasetStream.read r.bufferSize r.input r.machine = _ from read]
    rfl
  | @broken task rest e stdin running next offers write broken =>
    have hsend : r.send? rest = some (r.finishInput rest) := by
      unfold send?
      rw [write]
      have hroom : e.isWouldBlock = false := by
        unfold PipeError.isBroken at broken
        split at broken
        next => rfl
        next => cases broken
      simp only [hroom, broken, if_true, Bool.false_eq_true, if_false]
    refine ⟨r.finishInput rest, ?_, rfl⟩
    rw [turn?_task running next]
    rcases offers with rfl | ⟨rfl, left⟩
    · exact hsend
    · show (if r.pending.isEmpty then r.refill? rest else r.send? rest) = _
      rw [if_neg (by simpa using left)]
      exact hsend

/-- The next event closes the relay's end of the child's input. -/
def ClosesWith (r : Relay ω ι δ) (e : Event ω) : Prop :=
  r.plumbing.stdin.writeOpen = true ∧ (r.advance e).plumbing.stdin.writeOpen = false

/-- **Only a step of the relay closes its end of the child's input, and only for one of the three reasons.** -/
theorem closesWith_iff {e : Event ω} :
    r.ClosesWith e ↔ e = .turn ∧ r.plumbing.stdin.writeOpen = true ∧ r.HalfCloses := by
  constructor
  · rintro ⟨before, after⟩
    cases e with
    | outside action =>
      rw [show (r.advance (.outside action)).plumbing = r.plumbing.perform action from rfl,
        (r.plumbing.perform_effect action).writeOpen_eq, before] at after
      cases after
    | elsewhere change => cases before.symm.trans after
    | turn =>
      cases hturn : r.turn? with
      | none =>
        rw [advance_stay hturn, before] at after
        cases after
      | some r' =>
        rw [advance_turn hturn] at after
        rcases (turn_of_turn? hturn).writeOpen_cases with hsame | ⟨hreason, -⟩
        · cases before.symm.trans (hsame.symm.trans after)
        · exact ⟨rfl, before, hreason⟩
  · rintro ⟨rfl, before, reason⟩
    obtain ⟨r', hturn, hshut⟩ := reason.closes
    exact ⟨before, by rw [advance_turn hturn, hshut]⟩

/-- A step does not open the relay's end of the child's input again. -/
theorem Turn.keeps_shut (h : Turn r r') (shut : r.plumbing.stdin.writeOpen = false) :
    r'.plumbing.stdin.writeOpen = false := by
  rcases h.writeOpen_cases with hsame | ⟨-, hshut, -⟩
  · exact hsame.trans shut
  · exact hshut

/-- Nothing does. -/
theorem writeOpen_run (shut : r.plumbing.stdin.writeOpen = false) (schedule : List (Event ω)) :
    (r.run schedule).plumbing.stdin.writeOpen = false := by
  refine run_induction (P := fun r => r.plumbing.stdin.writeOpen = false) (fun r action h => ?_) (fun _ _ h => h)
    (fun _ _ h turn => turn.keeps_shut h) schedule r shut
  exact ((r.plumbing.perform_effect action).writeOpen_eq).trans h

/-! ## Where a run is -/

/-- Where a run that has begun at `start` stands with its half-close. -/
structure HalfCloseInv (start r : Relay ω ι δ) : Prop where
  orderly : OrderlyAgenda r
  /-- Before its first step the run has not waited and has made no call. -/
  starting : ∀ rest, r.agenda = .start :: rest →
    r.input = start.input ∧ r.stats = start.stats ∧ r.history = []
  serving : servesInput r.agenda = true → r.plumbing.stdin.writeOpen = true
  unclosed : r.plumbing.stdin.writeOpen = true → r.closes = 0
  closing : ∀ rest, r.agenda = .closeInput :: rest → r.plumbing.stdin.writeOpen = false ∧ r.closes = 0
  once : r.closes ≤ 1
  failed : ∀ e, .close (.error e) ∈ r.history → r.outcome = some (.error (.dataset e))

omit [DatasetStream ω ι] [DatasetStream ω δ] in
theorem halfCloseInv_begin (h : r.Begins) : HalfCloseInv r r where
  orderly := by
    unfold OrderlyAgenda
    rw [h.agenda]
    exact List.nil_sublist _
  starting _ _ := ⟨rfl, rfl, h.history⟩
  serving serves := by
    rw [h.agenda] at serves
    cases serves
  unclosed _ := by
    unfold closes
    rw [h.history]
    rfl
  closing rest next := by cases h.agenda.symm.trans next
  once := by
    unfold closes
    rw [h.history]
    exact Nat.zero_le 1
  failed e called := by
    rw [h.history] at called
    cases called

/-! ## Every step keeps its place -/

/-- Nothing is left to do for the input before the next wait. -/
def InputRests (r : Relay ω ι δ) : Prop :=
  ∀ task rest, r.agenda = task :: rest → worksOnInput task = false

omit [DatasetStream ω ι] [DatasetStream ω δ] in
theorem inputRests_of_sublist (h : r.agenda.Sublist outputTasks) : InputRests r :=
  fun _ _ next => head_of_sublist h next

section Step

variable {start : Relay ω ι δ}

omit [DatasetStream ω ι] [DatasetStream ω δ] in
/-- A step that neither closes the input nor leaves anything to do for it. -/
theorem HalfCloseInv.frame (h : HalfCloseInv start r) (running : r.outcome = none) (orderly : OrderlyAgenda r')
    (rests : InputRests r') (opened : r'.plumbing.stdin.writeOpen = r.plumbing.stdin.writeOpen)
    (calls : r'.history = r.history ∨ ∃ call, call.isClose = false ∧ r'.history = call :: r.history) :
    HalfCloseInv start r' := by
  have hcloses : r'.closes = r.closes := by
    unfold closes
    rcases calls with hsame | ⟨call, hcall, hnew⟩
    · rw [hsame]
    · rw [hnew, List.countP_cons_of_neg (by rw [hcall]; exact Bool.false_ne_true)]
  refine ⟨orderly, fun rest next => absurd (rests _ _ next) nofun, fun serves => ?_, ?_,
    fun rest next => absurd (rests _ _ next) nofun, hcloses ▸ h.once, fun e called => ?_⟩
  · unfold servesInput at serves
    split at serves
    next rest next => exact absurd (rests _ _ next) nofun
    next rest next => exact absurd (rests _ _ next) nofun
    next => cases serves
  · rw [opened, hcloses]
    exact h.unclosed
  · -- a close that failed before would have ended the run
    have hbefore : .close (.error e) ∈ r.history := by
      rcases calls with hsame | ⟨call, hcall, hnew⟩
      · rwa [← hsame]
      · rw [hnew] at called
        refine (List.mem_cons.mp called).resolve_left ?_
        rintro rfl
        cases hcall
    cases running.symm.trans (h.failed e hbefore)

omit [DatasetStream ω ι] [DatasetStream ω δ] in
/-- The input was not closed yet when the child's input is. -/
theorem HalfCloseInv.finishInput (h : HalfCloseInv start r) {task : RelayTask} {rest : List RelayTask}
    (running : r.outcome = none) (next : r.agenda = task :: rest) (unclosed : r.closes = 0) :
    HalfCloseInv start (r.finishInput rest) where
  orderly := h.orderly.rest next
  starting := nofun
  serving := nofun
  unclosed := nofun
  closing _ _ := ⟨rfl, unclosed⟩
  once := Nat.le_trans (Nat.le_of_eq unclosed) (Nat.zero_le 1)
  failed e called := by cases running.symm.trans (h.failed e called)

omit [DatasetStream ω ι] [DatasetStream ω δ] in
/-- A read puts the input to no other place. -/
theorem HalfCloseInv.noted (h : HalfCloseInv start r) (running : r.outcome = none) {rest : List RelayTask}
    (next : r.agenda = .serveInput :: rest) (input : ι) (machine : ω) (result : Except DatasetError Bytes) :
    HalfCloseInv start ({ r with input, machine }.noted (.read result)) where
  orderly := h.orderly
  starting rest' next' := by cases next.symm.trans next'
  serving := h.serving
  unclosed := h.unclosed
  closing rest' next' := by cases next.symm.trans next'
  once := h.once
  failed e called := by cases running.symm.trans (h.failed e ((List.mem_cons.mp called).resolve_left nofun))

omit [DatasetStream ω ι] [DatasetStream ω δ] in
/-- The input is closed once, and the run fails if that does. -/
theorem HalfCloseInv.inputClosed (h : HalfCloseInv start r) {rest : List RelayTask} (running : r.outcome = none)
    (next : r.agenda = .closeInput :: rest) {result : Except DatasetError Unit}
    (history : r'.history = .close result :: r.history)
    (opened : r'.plumbing.stdin.writeOpen = r.plumbing.stdin.writeOpen) (agenda : r'.agenda.Sublist outputTasks)
    (failed : ∀ e, result = .error e → r'.outcome = some (.error (.dataset e))) : HalfCloseInv start r' := by
  obtain ⟨hshut, hunclosed⟩ := h.closing rest next
  have hrests := inputRests_of_sublist agenda
  have hcloses : r'.closes = 1 := by
    unfold closes at hunclosed ⊢
    rw [history, List.countP_cons_of_pos rfl, hunclosed]
  refine ⟨(List.tail_sublist _).trans agenda, fun rest next => absurd (hrests _ _ next) nofun, fun serves => ?_,
    fun hopen => ?_, fun rest next => absurd (hrests _ _ next) nofun, Nat.le_of_eq hcloses, fun e called => ?_⟩
  · cases serves.symm.trans (servesInput_of_sublist agenda)
  · cases hshut.symm.trans (opened.symm.trans hopen)
  · rw [history] at called
    rcases List.mem_cons.mp called with heq | hbefore
    · exact failed e (RelayCall.close.inj heq).symm
    · cases running.symm.trans (h.failed e hbefore)

theorem Turn.halfCloseInv (h : Turn r r') (hi : HalfCloseInv start r) : HalfCloseInv start r' := by
  have horderly := h.orderly hi.orderly
  cases h with
  | head running idle head =>
    cases head with
    | drained | stopped =>
      refine hi.frame running horderly (fun _ _ next => ?_) rfl (.inl rfl)
      cases idle.symm.trans next
    | woken =>
      refine ⟨horderly, fun rest next => absurd next ((head_tasks _).1 rest), writeOpen_of_servesInput, hi.unclosed,
        fun rest next => absurd next ((head_tasks _).2 rest), hi.once, hi.failed⟩
  | @deed task rest running next deed =>
    have hrest := hi.orderly.rest next
    have hserves (serves : servesInput (task :: rest) = true) : r.closes = 0 :=
      hi.unclosed (hi.serving (by rw [next]; exact serves))
    have hfailed : ∀ task' rest', ([] : List RelayTask) = task' :: rest' → worksOnInput task' = false := nofun
    cases deed with
    | unblocked isOpen set =>
      cases Pipe.setNonblocking_ok set
      exact hi.frame running horderly (inputRests_of_sublist hrest) rfl (.inl rfl)
    | alreadyClosed | refused => exact hi.frame running horderly (inputRests_of_sublist hrest) rfl (.inl rfl)
    | sent offers write =>
      have hends := (Pipe.offer_done (Pipe.write_done write).2).1
      exact hi.frame running horderly (inputRests_of_sublist hrest) (by rw [hends]) (.inl rfl)
    | outputEnded | outputRead =>
      refine hi.frame running horderly ?_ (congrArg Pipe.writeOpen (Plumbing.stdin_setOutput ..)) (.inl rfl)
      first
        | exact inputRests_of_sublist hrest
        | rintro _ _ ⟨⟩; rfl
    | sendFailed | outputFailed => exact hi.frame running horderly hfailed rfl (.inl rfl)
    | readFailed => exact hi.frame running horderly hfailed rfl (.inr ⟨_, rfl, rfl⟩)
    | delivered => exact hi.frame running horderly (inputRests_of_sublist hrest) rfl (.inr ⟨_, rfl, rfl⟩)
    | deliverFailed => exact hi.frame running horderly hfailed rfl (.inr ⟨_, rfl, rfl⟩)
    | refilled =>
      have hnoted := hi.noted running next
      exact ⟨horderly, nofun, fun _ => hi.serving (by rw [next]; rfl), hi.unclosed, nofun, hi.once,
        (hnoted _ _ _).failed⟩
    | noInput =>
      -- the first step: no call was made before it
      refine hi.finishInput running next ?_
      unfold Relay.closes
      rw [(hi.starting rest next).2.2]
      rfl
    | inputEnded => exact (hi.noted running next _ _ _).finishInput running next (hserves rfl)
    | broken offers =>
      refine hi.finishInput running next (hserves ?_)
      rcases offers with rfl | ⟨rfl, -⟩ <;> rfl
    | inputClosed => exact hi.inputClosed running next rfl rfl hrest nofun
    | closeFailed =>
      refine hi.inputClosed running next rfl rfl (List.nil_sublist _) ?_
      rintro e ⟨⟩
      rfl

omit [DatasetStream ω ι] [DatasetStream ω δ] in
/-- Other parties do not act on the relay's end of the child's input. -/
theorem HalfCloseInv.outside (h : HalfCloseInv start r) (action : Plumbing.Action) :
    HalfCloseInv start { r with plumbing := r.plumbing.perform action } := by
  have hopen := (r.plumbing.perform_effect action).writeOpen_eq
  exact { h with
    serving := fun serves => hopen.trans (h.serving serves)
    unclosed := fun opened => h.unclosed (hopen.symm.trans opened)
    closing := fun rest next => ⟨hopen.trans (h.closing rest next).1, (h.closing rest next).2⟩ }

end Step

/-- A run knows where it stands at every point. -/
theorem halfCloseInv_run (begins : r.Begins) (schedule : List (Event ω)) : HalfCloseInv r (r.run schedule) :=
  run_induction (P := HalfCloseInv r) (fun _ action hi => hi.outside action) (fun _ _ hi => { hi with })
    (fun _ _ hi turn => turn.halfCloseInv hi) schedule r (halfCloseInv_begin begins)

/-! ## After the half-close -/

/-- A step with the child's input closed neither reads the input nor writes to the child. -/
theorem Turn.quiet {start : Relay ω ι δ} (h : Turn r r') (hi : HalfCloseInv start r)
    (shut : r.plumbing.stdin.writeOpen = false) :
    r'.reads = r.reads ∧ r'.plumbing.accepted = r.plumbing.accepted := by
  have hsame (same : SameInput r r') : r'.reads = r.reads ∧ r'.plumbing.accepted = r.plumbing.accepted := by
    refine ⟨?_, same.accepted⟩
    unfold Relay.reads
    rcases same.calls with hkept | ⟨call, hcall, hnew⟩
    · rw [hkept]
    · rw [hnew, List.countP_cons_of_neg (by rw [hcall]; exact Bool.false_ne_true)]
  cases h with
  | head _ _ head => exact hsame head.sides.2
  | @deed task rest running next deed =>
    have hresting (serves : servesInput (task :: rest) = true) : False := by
      cases shut.symm.trans (hi.serving (by rw [next]; exact serves))
    rcases deed.side with ⟨input, -⟩ | ⟨-, same⟩
    · cases deed with
      | unblocked isOpen set =>
        cases Pipe.setNonblocking_ok set
        exact ⟨rfl, rfl⟩
      | alreadyClosed | noInput | inputClosed | closeFailed => exact ⟨rfl, rfl⟩
      | readFailed | inputEnded | refilled => exact (hresting rfl).elim
      | sent offers | refused offers | broken offers | sendFailed offers =>
        rcases offers with rfl | ⟨rfl, -⟩ <;> exact (hresting rfl).elim
      | _ => cases input
    · exact hsame same

/-- So does a whole run. -/
theorem quiet_run {start : Relay ω ι δ} (hi : HalfCloseInv start r) (shut : r.plumbing.stdin.writeOpen = false)
    (schedule : List (Event ω)) :
    (r.run schedule).reads = r.reads ∧ (r.run schedule).plumbing.accepted = r.plumbing.accepted := by
  let P (r' : Relay ω ι δ) : Prop := (HalfCloseInv start r' ∧ r'.plumbing.stdin.writeOpen = false) ∧
    r'.reads = r.reads ∧ r'.plumbing.accepted = r.plumbing.accepted
  have hrun : P (r.run schedule) := by
    refine run_induction (P := P) (fun r' action h => ?_) (fun _ _ h => ⟨⟨{ h.1.1 with }, h.1.2⟩, h.2⟩)
      (fun r' r'' h turn => ?_) schedule r ⟨⟨hi, shut⟩, rfl, rfl⟩
    · have heffect := r'.plumbing.perform_effect action
      exact ⟨⟨h.1.1.outside action, heffect.writeOpen_eq.trans h.1.2⟩, h.2.1, heffect.accepted_eq.trans h.2.2⟩
    · obtain ⟨⟨hi', hshut⟩, hreads, haccepted⟩ := h
      obtain ⟨hreads', haccepted'⟩ := turn.quiet hi' hshut
      exact ⟨⟨turn.halfCloseInv hi', turn.keeps_shut hshut⟩, hreads'.trans hreads, haccepted'.trans haccepted⟩
  exact hrun.2

/-! ## The main statement -/

/-- **A run closes its end of the child's input at most once, for one of three reasons, and the input dataset
after it.** At every point of a run, whatever other parties do:

* the next event closes the child's input if and only if it is open and the event is a step of the relay with one
  of the reasons of `HalfCloses`;
* before the first step, which is where an input that is not open is found, the run has its input as it was given,
  has not waited and has made no call;
* once the child's input is closed it stays closed, the input is not read again, and nothing is written to the
  child any more;
* the input is closed at most once, and only after the child's input;
* if closing the input fails, the run ends with that error, and the child's input is closed. -/
theorem halfCloses_once (begins : r.Begins) (schedule : List (Event ω)) :
    let r' := r.run schedule
    (∀ e, r'.ClosesWith e ↔ e = .turn ∧ r'.plumbing.stdin.writeOpen = true ∧ r'.HalfCloses) ∧
    (∀ rest, r'.agenda = .start :: rest →
      r'.input = r.input ∧ r'.stats.iterations = r.stats.iterations ∧ r'.history = []) ∧
    (r'.plumbing.stdin.writeOpen = false → ∀ later,
      (r'.run later).plumbing.stdin.writeOpen = false ∧ servesInput (r'.run later).agenda = false ∧
      (r'.run later).reads = r'.reads ∧ (r'.run later).plumbing.accepted = r'.plumbing.accepted) ∧
    r'.closes ≤ 1 ∧
    (0 < r'.closes → r'.plumbing.stdin.writeOpen = false) ∧
    (∀ e, .close (.error e) ∈ r'.history →
      r'.outcome = some (.error (.dataset e)) ∧ r'.plumbing.stdin.writeOpen = false) := by
  intro r'
  have hi : HalfCloseInv r r' := halfCloseInv_run begins schedule
  have hclosed (closed : 0 < r'.closes) : r'.plumbing.stdin.writeOpen = false := by
    cases hopen : r'.plumbing.stdin.writeOpen with
    | false => rfl
    | true => exact absurd (hi.unclosed hopen) (Nat.ne_of_gt closed)
  refine ⟨fun e => closesWith_iff, fun rest next => ?_, fun shut later => ?_, hi.once, hclosed, fun e called => ?_⟩
  · obtain ⟨hinput, hstats, hhistory⟩ := hi.starting rest next
    exact ⟨hinput, by rw [hstats], hhistory⟩
  · have hshut := writeOpen_run shut later
    obtain ⟨hreads, haccepted⟩ := quiet_run hi shut later
    refine ⟨hshut, ?_, hreads, haccepted⟩
    have hserving : servesInput (r'.run later).agenda = true → (r'.run later).plumbing.stdin.writeOpen = true := by
      rw [show r'.run later = r.run (schedule ++ later) from (run_append r schedule later).symm]
      exact (halfCloseInv_run begins (schedule ++ later)).serving
    cases hserves : servesInput (r'.run later).agenda with
    | false => rfl
    | true => cases hshut.symm.trans (hserving hserves)
  · exact ⟨hi.failed e called, hclosed (List.countP_pos_iff.mpr ⟨_, called, rfl⟩)⟩

/-- One byte of input, which cannot be closed. -/
def unclosable : Relay Unit Rehearsal.MemoryDataset Rehearsal.MemoryDataset :=
  create .fresh () { name := "SYSIN", content := [7], failClose := true }
    { stdout := { name := "STDOUT" }, stderr := { name := "STDERR" }, fallback := { name := "SYSOUT" } }
    .drainToEof 2

/-- The end of the input is found after the second wait, which half-closes; the close that follows fails. -/
theorem halfCloses_once_unclosable :
    unclosable.Begins ∧ (unclosable.run (List.replicate 5 .turn)).HalfCloses ∧
      (unclosable.run (List.replicate 7 .turn)).closes = 1 ∧
      (unclosable.run (List.replicate 7 .turn)).outcome = some (.error (.dataset (.write "SYSIN" .scripted))) ∧
      (unclosable.run (List.replicate 7 .turn)).plumbing.stdin.writeOpen = false := by
  have begins : unclosable.Begins := begins_create ..
  obtain ⟨hcloses, -⟩ := halfCloses_once begins (List.replicate 5 .turn)
  obtain ⟨-, -, -, honce, -, hfailed⟩ := halfCloses_once begins (List.replicate 7 .turn)
  have hcalled : .close (.error (.write "SYSIN" .scripted)) ∈ (unclosable.run (List.replicate 7 .turn)).history :=
    List.mem_cons_self
  have hpos : 0 < (unclosable.run (List.replicate 7 .turn)).closes := List.countP_pos_iff.mpr ⟨_, hcalled, rfl⟩
  have hcrossing : (unclosable.run (List.replicate 5 .turn)).ClosesWith .turn := ⟨by decide, by decide⟩
  exact ⟨begins, ((hcloses .turn).mp hcrossing).2.2, Nat.le_antisymm honce hpos, hfailed _ hcalled⟩

end Relay

end BatchJob
