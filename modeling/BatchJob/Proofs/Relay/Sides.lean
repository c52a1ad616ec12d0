import BatchJob.Proofs.Relay.Books
import BatchJob.Proofs.Relay.Company
import BatchJob.Proofs.Relay.Turn

/-!
# The two sides of the relay

A step works on the input or on one of the outputs, never on both: an input step leaves everything that
concerns the outputs as it was (`SameOutputs`), and an output step everything that concerns the input
(`SameInput`). `Deed.side` sorts the steps, so that an invariant of one side has to look at the steps of
that side only.

The agenda is short: whatever stands first, behind it only the outputs wait to be served, each once and the
standard output before the error output (`OrderlyAgenda`).
-/

namespace BatchJob.Relay

variable {ω ι δ : Type} {r r' : Relay ω ι δ}

/-! ## What a step leaves alone -/

/-- Nothing that concerns the outputs has changed. -/
structure SameOutputs (r r' : Relay ω ι δ) : Prop where
  wrote : ∀ c, r'.plumbing.wrote c = r.plumbing.wrote c := by intro c; cases c <;> rfl
  output : ∀ c, r'.plumbing.output c = r.plumbing.output c := by intro c; cases c <;> rfl
  counter : ∀ c : OutputChannel, r'.stats.counter c.toChannel = r.stats.counter c.toChannel := by
    intro c; cases c <;> rfl
  outputs : r'.outputs = r.outputs := by rfl
  bufferSize : r'.bufferSize = r.bufferSize := by rfl
  /-- No write was added to the history. -/
  calls : r'.history = r.history ∨ ∃ call, call.isWrite = false ∧ r'.history = call :: r.history := by
    first | exact .inl rfl | exact .inr ⟨_, rfl, rfl⟩

/-- Nothing that concerns the input has changed. -/
structure SameInput (r r' : Relay ω ι δ) : Prop where
  stdin : r'.plumbing.stdin = r.plumbing.stdin := by first | rfl | exact Plumbing.stdin_setOutput ..
  received : r'.plumbing.received = r.plumbing.received := by
    first | rfl | exact Plumbing.received_setOutput ..
  counter : r'.stats.counter .stdin = r.stats.counter .stdin := by rfl
  chunk : r'.chunk = r.chunk := by rfl
  taken : r'.taken = r.taken := by rfl
  input : r'.input = r.input := by rfl
  bufferSize : r'.bufferSize = r.bufferSize := by rfl
  /-- No read was added to the history. -/
  calls : r'.history = r.history ∨ ∃ call, call.isRead = false ∧ r'.history = call :: r.history := by
    first | exact .inl rfl | exact .inr ⟨_, rfl, rfl⟩

/-- What only writes move is the same. -/
theorem SameOutputs.total {part : RelayCall → Bytes} (h : SameOutputs r r')
    (hpart : ∀ call, call.isWrite = false → part call = []) : r'.total part = r.total part := by
  unfold Relay.total
  rcases h.calls with hsame | ⟨call, hcall, hnew⟩
  · rw [hsame]
  · simp [hnew, hpart call hcall]

theorem SameOutputs.delivered (h : SameOutputs r r') (c : OutputChannel) : r'.delivered c = r.delivered c :=
  h.total fun _ => RelayCall.delivered_eq_nil c

theorem SameOutputs.offered (h : SameOutputs r r') (c : OutputChannel) : r'.offered c = r.offered c :=
  h.total fun _ => RelayCall.offered_eq_nil c

/-- What only reads move is the same. -/
theorem SameInput.inputRead (h : SameInput r r') : r'.inputRead = r.inputRead := by
  unfold Relay.inputRead Relay.total
  rcases h.calls with hsame | ⟨call, hcall, hnew⟩
  · rw [hsame]
  · simp [hnew, RelayCall.got_eq_nil hcall]

theorem SameInput.accepted (h : SameInput r r') : r'.plumbing.accepted = r.plumbing.accepted := by
  unfold Plumbing.accepted Plumbing.childInput
  rw [h.stdin, h.received]

theorem SameInput.pending (h : SameInput r r') : r'.pending = r.pending := by
  unfold Relay.pending
  rw [h.chunk, h.taken]

/-! ## Sorting the steps -/

/-- Whether a task works on the input. -/
def worksOnInput : RelayTask → Bool
  | .start | .serveInput | .sendChunk | .closeInput => true
  | .serveOutput _ | .deliver _ _ => false

variable [DatasetStream ω ι] [DatasetStream ω δ]

omit [DatasetStream ω ι] [DatasetStream ω δ] in
theorem Offers.worksOnInput {task : RelayTask} (h : r.Offers task) : worksOnInput task = true := by
  rcases h with rfl | ⟨rfl, -⟩ <;> rfl

omit [DatasetStream ω ι] [DatasetStream ω δ] in
theorem Offers.not_output {task : RelayTask} (h : r.Offers task) (output : Relay.worksOnInput task = false) : False :=
  Bool.false_ne_true (output.symm.trans h.worksOnInput)

/-- **A step works on one side only.** -/
theorem Deed.side {task : RelayTask} {rest : List RelayTask} (h : Deed r rest task r') :
    (worksOnInput task = true ∧ SameOutputs r r') ∨ (worksOnInput task = false ∧ SameInput r r') := by
  cases h with
  | unblocked => exact .inl ⟨rfl, {}⟩
  | alreadyClosed => exact .inl ⟨rfl, {}⟩
  | noInput => exact .inl ⟨rfl, {}⟩
  | readFailed => exact .inl ⟨rfl, {}⟩
  | inputEnded => exact .inl ⟨rfl, {}⟩
  | refilled => exact .inl ⟨rfl, {}⟩
  | sent offers => exact .inl ⟨offers.worksOnInput, {}⟩
  | refused offers => exact .inl ⟨offers.worksOnInput, {}⟩
  | broken offers => exact .inl ⟨offers.worksOnInput, {}⟩
  | sendFailed offers => exact .inl ⟨offers.worksOnInput, {}⟩
  | inputClosed => exact .inl ⟨rfl, {}⟩
  | closeFailed => exact .inl ⟨rfl, {}⟩
  | outputEnded => exact .inr ⟨rfl, {}⟩
  | outputRead => exact .inr ⟨rfl, {}⟩
  | outputFailed => exact .inr ⟨rfl, {}⟩
  | @delivered c => exact .inr ⟨rfl, { counter := by cases c <;> rfl }⟩
  | deliverFailed => exact .inr ⟨rfl, {}⟩

omit [DatasetStream ω δ] in
/-- The head of the loop works on neither side. -/
theorem LoopHead.sides (h : LoopHead r r') : SameOutputs r r' ∧ SameInput r r' := by
  cases h with
  | drained => exact ⟨{}, {}⟩
  | stopped => exact ⟨{}, {}⟩
  | woken => exact ⟨{}, {}⟩

/-! ## The agenda -/

/-- The outputs, in the order in which they are served. -/
def outputTasks : List RelayTask := [.serveOutput .stdout, .serveOutput .stderr]

/-- Behind the first task only outputs wait to be served. -/
def OrderlyAgenda (r : Relay ω ι δ) : Prop :=
  r.agenda.tail.Sublist outputTasks

omit [DatasetStream ω ι] [DatasetStream ω δ] in
theorem OrderlyAgenda.rest {task : RelayTask} {rest : List RelayTask} (h : OrderlyAgenda r)
    (next : r.agenda = task :: rest) : rest.Sublist outputTasks := by
  unfold OrderlyAgenda at h
  rwa [next] at h

/-- What the agenda is after a task was carried out. -/
theorem Deed.agenda {task : RelayTask} {rest : List RelayTask} (h : Deed r rest task r') :
    (r'.agenda = [] ∧ r'.outcome ≠ none) ∨ (r'.outcome = r.outcome ∧
      (r'.agenda = rest ∨ r'.agenda = .sendChunk :: rest ∨ r'.agenda = .closeInput :: rest ∨
        ∃ c chunk, task = .serveOutput c ∧ r'.agenda = .deliver c chunk :: rest)) := by
  cases h with
  | readFailed | sendFailed | closeFailed | outputFailed | deliverFailed =>
    exact .inl ⟨rfl, Option.some_ne_none _⟩
  | unblocked | alreadyClosed | sent | refused | inputClosed | outputEnded | delivered =>
    exact .inr ⟨rfl, .inl rfl⟩
  | refilled => exact .inr ⟨rfl, .inr (.inl rfl)⟩
  | noInput | inputEnded | broken => exact .inr ⟨rfl, .inr (.inr (.inl rfl))⟩
  | outputRead => exact .inr ⟨rfl, .inr (.inr (.inr ⟨_, _, rfl, rfl⟩))⟩

theorem tasks_tail (ready : Readiness) : (tasks ready).tail.Sublist outputTasks := by
  unfold tasks outputTasks
  split <;> split <;> split <;> simp

/-- Unless the input side is ready, a wait puts outputs only on the agenda. -/
theorem tasks_of_still {ready : Readiness} (h : (ready.input || ready.stdin) = false) :
    (tasks ready).Sublist outputTasks := by
  unfold tasks outputTasks
  rw [h, if_neg Bool.false_ne_true]
  split <;> split <;> simp

theorem Deed.orderly {task : RelayTask} {rest : List RelayTask} (h : Deed r rest task r')
    (hrest : rest.Sublist outputTasks) : OrderlyAgenda r' := by
  unfold OrderlyAgenda
  rcases h.agenda with ⟨hnil, -⟩ | ⟨-, hrest' | hsend | hclose | ⟨c, chunk, -, hdeliver⟩⟩
  · rw [hnil]
    exact List.nil_sublist _
  · rw [hrest']
    exact (List.tail_sublist rest).trans hrest
  · rw [hsend]
    exact hrest
  · rw [hclose]
    exact hrest
  · rw [hdeliver]
    exact hrest

theorem Turn.orderly (h : Turn r r') (ho : OrderlyAgenda r) : OrderlyAgenda r' := by
  cases h with
  | head running idle head =>
    cases head with
    | drained => exact ho
    | stopped => exact ho
    | woken => exact tasks_tail _
  | deed running next deed =>
    exact deed.orderly (ho.rest next)

end BatchJob.Relay
