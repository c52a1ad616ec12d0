import BatchJob.Proofs.Dataset.Reading
import BatchJob.Proofs.Relay.Sides

/-!
# Integrity of the input

The child's input pipe is offered what the input gives, in order and without a gap. `InputInv` keeps the
books: as long as the relay's end of the pipe is open, what was read from the input is what the pipe has
accepted, followed by what is left of the chunk in flight. A read happens only when nothing of the chunk is
left; a write moves a first part of the rest into the pipe; closing the pipe drops the rest, and then the
pipe has accepted a first part of what was read.

`WholeInv` relates what was read to the whole content of an input that has one.

Main statement: `input_intact`.
-/

namespace BatchJob.Relay

variable {ω ι δ : Type} {r r' : Relay ω ι δ}

/-! ## The agenda of the input side -/

/-- The next task reads the input or writes to the child. -/
def servesInput : List RelayTask → Bool
  | .serveInput :: _ | .sendChunk :: _ => true
  | _ => false

theorem servesInput_of_sublist {agenda : List RelayTask} (h : agenda.Sublist outputTasks) :
    servesInput agenda = false := by
  unfold servesInput
  split
  next rest => simpa [outputTasks] using h.subset List.mem_cons_self
  next rest => simpa [outputTasks] using h.subset List.mem_cons_self
  next => rfl

theorem head_of_sublist {agenda rest : List RelayTask} {task : RelayTask} (h : agenda.Sublist outputTasks)
    (next : agenda = task :: rest) : worksOnInput task = false := by
  subst next
  have hmem := h.subset List.mem_cons_self
  simp only [outputTasks, List.mem_cons, List.not_mem_nil, or_false] at hmem
  rcases hmem with rfl | rfl <;> rfl

/-! ## The invariant -/

/-- The books of the input. -/
structure InputInv (r : Relay ω ι δ) : Prop where
  orderly : OrderlyAgenda r
  roomy : 1 ≤ r.bufferSize
  inside : r.taken ≤ r.chunk.length
  fits : r.chunk.length ≤ r.bufferSize
  starting : ∀ rest, r.agenda = .start :: rest → r.pending = []
  serving : servesInput r.agenda = true → r.plumbing.stdin.writeOpen = true
  closing : ∀ rest, r.agenda = .closeInput :: rest → r.plumbing.stdin.writeOpen = false
  balanced : r.plumbing.stdin.writeOpen = true → r.inputRead = r.plumbing.accepted ++ r.pending
  behind : r.plumbing.accepted <+: r.inputRead
  counted : r.stats.counter .stdin = min r.plumbing.accepted.length RelayStats.limit
  ended : .read (.ok []) ∈ r.history →
    r.plumbing.stdin.writeOpen = false ∧ r.plumbing.accepted = r.inputRead

/-- An action of another party takes bytes out of the pipe at most. -/
theorem InputInv.outside (h : InputInv r) (action : Plumbing.Action) :
    InputInv { r with plumbing := r.plumbing.perform action } := by
  have heffect := r.plumbing.perform_effect action
  have haccepted := heffect.accepted_eq
  have hopen := heffect.writeOpen_eq
  refine ⟨h.orderly, h.roomy, h.inside, h.fits, h.starting, ?_, ?_, ?_, ?_, ?_, ?_⟩
  · rw [hopen]
    exact h.serving
  · rw [hopen]
    exact h.closing
  · rw [hopen, haccepted]
    exact h.balanced
  · rw [haccepted]
    exact h.behind
  · rw [haccepted]
    exact h.counted
  · rw [hopen, haccepted]
    exact h.ended

/-- A step that leaves the input alone keeps its books. -/
theorem InputInv.frame (h : InputInv r) (same : SameInput r r') (orderly : OrderlyAgenda r')
    (starting : ∀ rest, r'.agenda ≠ .start :: rest) (closing : ∀ rest, r'.agenda ≠ .closeInput :: rest)
    (serving : servesInput r'.agenda = true → r.plumbing.stdin.writeOpen = true) : InputInv r' := by
  refine ⟨orderly, same.bufferSize ▸ h.roomy, ?_, ?_, fun rest hnext => absurd hnext (starting rest), ?_,
    fun rest hnext => absurd hnext (closing rest), ?_, ?_, ?_, fun hend => ?_⟩
  · rw [same.taken, same.chunk]
    exact h.inside
  · rw [same.chunk, same.bufferSize]
    exact h.fits
  · rw [same.stdin]
    exact serving
  · rw [same.stdin, same.inputRead, same.accepted, same.pending]
    exact h.balanced
  · rw [same.inputRead, same.accepted]
    exact h.behind
  · rw [same.counter, same.accepted]
    exact h.counted
  · rw [same.stdin, same.inputRead, same.accepted]
    refine h.ended ?_
    rcases same.calls with hsame | ⟨call, hcall, hnew⟩
    · rwa [← hsame]
    · rw [hnew] at hend
      rcases List.mem_cons.mp hend with rfl | hmem
      · cases hcall
      · exact hmem

/-- So does one after which only outputs wait to be served. -/
theorem InputInv.frameOutputs (h : InputInv r) (same : SameInput r r')
    (rest : r'.agenda.Sublist outputTasks) : InputInv r' := by
  refine h.frame same ((List.tail_sublist _).trans rest) ?_ ?_ ?_
  · exact fun _ hnext => absurd (head_of_sublist rest hnext) nofun
  · exact fun _ hnext => absurd (head_of_sublist rest hnext) nofun
  · exact fun hserve => absurd (hserve.symm.trans (servesInput_of_sublist rest)) nofun

/-! ## The steps on the input -/

/-- A call adds what it has read to what was read before. -/
theorem inputRead_noted (r : Relay ω ι δ) (input : ι) (machine : ω) (call : RelayCall) :
    ({ r with input, machine }.noted call).inputRead = r.inputRead ++ call.got :=
  total_noted ..

section Input

variable {rest : List RelayTask} {task : RelayTask}

/-- Carrying on with the outputs keeps the books of the input, whatever was done to the mode of the pipe. -/
theorem InputInv.goOn (h : InputInv r) (next : r.agenda = task :: rest) {stdin : Pipe}
    (hqueue : stdin.queue = r.plumbing.stdin.queue) (hopen : stdin.writeOpen = r.plumbing.stdin.writeOpen) :
    InputInv { r with plumbing := { r.plumbing with stdin }, agenda := rest } := by
  have hrest := h.orderly.rest next
  have haccepted : ({ r.plumbing with stdin } : Plumbing).accepted = r.plumbing.accepted := by
    unfold Plumbing.accepted Plumbing.childInput
    rw [hqueue]
  refine ⟨(List.tail_sublist rest).trans hrest, h.roomy, h.inside, h.fits,
    fun _ hnext => absurd (head_of_sublist hrest hnext) nofun,
    fun hserve => absurd (hserve.symm.trans (servesInput_of_sublist hrest)) nofun,
    fun _ hnext => absurd (head_of_sublist hrest hnext) nofun, ?_, ?_, ?_, ?_⟩
  · rw [hopen, haccepted]
    exact h.balanced
  · rw [haccepted]
    exact h.behind
  · rw [haccepted]
    exact h.counted
  · rw [hopen, haccepted]
    exact h.ended

/-- Closing the child's input keeps what it has accepted. -/
theorem InputInv.finishInput (h : InputInv r) (next : r.agenda = task :: rest) :
    InputInv (r.finishInput rest) :=
  ⟨h.orderly.rest next, h.roomy, Nat.le_refl 0, Nat.zero_le _, nofun, nofun, fun _ _ => rfl, nofun, h.behind,
    h.counted, fun hend => ⟨rfl, (h.ended hend).2⟩⟩

/-- At the end of the input everything that was read has been accepted. -/
theorem InputInv.inputEnded (h : InputInv r) (next : r.agenda = .serveInput :: rest) (used : r.pending = [])
    {input : ι} {machine : ω} :
    InputInv (({ r with input, machine }.noted (.read (.ok []))).finishInput rest) := by
  have hall : r.inputRead = r.plumbing.accepted := by
    rw [h.balanced (h.serving (by rw [next]; rfl)), used, List.append_nil]
  have hread : ({ r with input, machine }.noted (.read (.ok []))).inputRead = r.inputRead :=
    (inputRead_noted ..).trans (List.append_nil _)
  refine ⟨h.orderly.rest next, h.roomy, Nat.le_refl 0, Nat.zero_le _, nofun, nofun, fun _ _ => rfl, nofun, ?_,
    h.counted, fun _ => ⟨rfl, ?_⟩⟩
  · show r.plumbing.accepted <+: ({ r with input, machine }.noted (.read (.ok []))).inputRead
    rw [hread]
    exact h.behind
  · show r.plumbing.accepted = ({ r with input, machine }.noted (.read (.ok []))).inputRead
    rw [hread, hall]

/-- A new chunk is read only when nothing is left of the last one. -/
theorem InputInv.refilled (h : InputInv r) (next : r.agenda = .serveInput :: rest) (used : r.pending = [])
    {input : ι} {machine : ω} {bytes : Bytes} (some : bytes ≠ []) (short : bytes.length ≤ r.bufferSize) :
    InputInv { { r with input, machine }.noted (.read (.ok bytes)) with
      chunk := bytes, taken := 0, agenda := .sendChunk :: rest } := by
  have hopen : r.plumbing.stdin.writeOpen = true := h.serving (by rw [next]; rfl)
  have hread : ({ r with input, machine }.noted (.read (.ok bytes))).inputRead = r.inputRead ++ bytes :=
    inputRead_noted ..
  refine ⟨h.orderly.rest next, h.roomy, Nat.zero_le _, short, nofun, fun _ => hopen, nofun, fun _ => ?_, ?_,
    h.counted, fun hend => ?_⟩
  · show ({ r with input, machine }.noted (.read (.ok bytes))).inputRead = r.plumbing.accepted ++ bytes
    rw [hread, h.balanced hopen, used, List.append_nil]
  · show r.plumbing.accepted <+: ({ r with input, machine }.noted (.read (.ok bytes))).inputRead
    rw [hread]
    exact h.behind.trans (List.prefix_append _ _)
  · -- an input that has ended is not read again
    rcases List.mem_cons.mp hend with heq | hmem
    · cases heq
      exact absurd rfl some
    · exact absurd (hopen.symm.trans (h.ended hmem).1) nofun

/-- What the pipe accepts is the first part of what is left of the chunk. -/
theorem InputInv.sent (h : InputInv r) (next : r.agenda = task :: rest) {n : Nat} {stdin : Pipe}
    (write : r.plumbing.stdin.write r.pending = (.done n, stdin)) :
    InputInv { r with
      plumbing := { r.plumbing with stdin }, taken := r.taken + n, stats := r.stats.add .stdin n,
      agenda := rest } := by
  have hrest := h.orderly.rest next
  obtain ⟨hopen, hoffer⟩ := Pipe.write_done write
  obtain ⟨hends, hn, hqueue⟩ := Pipe.offer_done hoffer
  have haccepted : ({ r.plumbing with stdin } : Plumbing).accepted =
      r.plumbing.accepted ++ r.pending.take n := Plumbing.accepted_offer hqueue
  have hlen : n ≤ r.chunk.length - r.taken := by
    rw [← List.length_drop]
    exact hn
  have hinside := h.inside
  -- the input is not served again before the next wait, so only the balance has to be kept
  refine ⟨(List.tail_sublist rest).trans hrest, h.roomy, ?_, h.fits,
    fun _ hnext => absurd (head_of_sublist hrest hnext) nofun,
    fun hserve => absurd (hserve.symm.trans (servesInput_of_sublist hrest)) nofun,
    fun _ hnext => absurd (head_of_sublist hrest hnext) nofun, fun _ => ?_, ?_, ?_, fun hend => ?_⟩
  · show r.taken + n ≤ r.chunk.length
    omega
  · calc r.inputRead
        = r.plumbing.accepted ++ r.pending := h.balanced hopen
      _ = r.plumbing.accepted ++ (r.pending.take n ++ r.pending.drop n) := by rw [List.take_append_drop]
      _ = ({ r.plumbing with stdin } : Plumbing).accepted ++ r.chunk.drop (r.taken + n) := by
          rw [haccepted, List.append_assoc, ← List.drop_drop]
          rfl
  · show ({ r.plumbing with stdin } : Plumbing).accepted <+: r.inputRead
    rw [haccepted, h.balanced hopen]
    exact (List.prefix_append_right_inj _).mpr (List.take_prefix _ _)
  · show (r.stats.add .stdin n).counter .stdin = min ({ r.plumbing with stdin } : Plumbing).accepted.length _
    rw [haccepted, RelayStats.counter_add, h.counted, RelayStats.raise_min, List.length_append,
      List.length_take, Nat.min_eq_left hn]
  · exact absurd (hopen.symm.trans (h.ended hend).1) nofun

/-- A run that fails moves no byte of the input. -/
theorem InputInv.fail (h : InputInv r) (e : RelayError) {input : ι} {machine : ω} {history : List RelayCall}
    (calls : history = r.history ∨ ∃ call, call ≠ .read (.ok []) ∧ call.got = [] ∧ history = call :: r.history) :
    InputInv ({ r with input, machine, history }.fail e) := by
  have hread : ({ r with input, machine, history } : Relay ω ι δ).inputRead = r.inputRead := by
    rcases calls with rfl | ⟨call, -, hgot, rfl⟩
    · rfl
    · simp [inputRead, total, hgot]
  refine ⟨List.nil_sublist _, h.roomy, h.inside, h.fits, fun _ hnext => absurd hnext.symm (List.cons_ne_nil _ _),
    fun hserve => absurd hserve Bool.false_ne_true, fun _ hnext => absurd hnext.symm (List.cons_ne_nil _ _),
    ?_, ?_, h.counted, fun hend => ?_⟩
  · show _ → ({ r with input, machine, history } : Relay ω ι δ).inputRead = _
    rw [hread]
    exact h.balanced
  · show _ <+: ({ r with input, machine, history } : Relay ω ι δ).inputRead
    rw [hread]
    exact h.behind
  · show _ ∧ _ = ({ r with input, machine, history } : Relay ω ι δ).inputRead
    rw [hread]
    refine h.ended ?_
    rcases calls with rfl | ⟨call, hcall, -, rfl⟩
    · exact hend
    · exact (List.mem_cons.mp hend).resolve_left (Ne.symm hcall)

/-- Closing the input dataset moves no byte of it. -/
theorem InputInv.inputClosed (h : InputInv r) (next : r.agenda = .closeInput :: rest) {input : ι}
    {machine : ω} :
    InputInv { { r with input, machine }.noted (.close (.ok ())) with agenda := rest } := by
  have hgo := h.goOn next rfl rfl
  have hread : ({ r with input, machine }.noted (.close (.ok ()))).inputRead = r.inputRead :=
    (inputRead_noted ..).trans (List.append_nil _)
  refine ⟨hgo.orderly, h.roomy, h.inside, h.fits, hgo.starting, hgo.serving, hgo.closing, ?_, ?_, h.counted,
    fun hend => ?_⟩
  · show _ → ({ r with input, machine }.noted (.close (.ok ()))).inputRead = _
    rw [hread]
    exact h.balanced
  · show _ <+: ({ r with input, machine }.noted (.close (.ok ()))).inputRead
    rw [hread]
    exact h.behind
  · show _ ∧ _ = ({ r with input, machine }.noted (.close (.ok ()))).inputRead
    rw [hread]
    exact h.ended ((List.mem_cons.mp hend).resolve_left nofun)

end Input

/-- The books agree before the first step. -/
theorem inputInv_create {p : Plumbing} (untaken : p.accepted = []) (machine : ω) (input : ι)
    (outputs : OutputRoutes δ) (policy : StopPolicy) (bufferSize : Nat) :
    InputInv (create p machine input outputs policy bufferSize) where
  orderly := List.nil_sublist _
  roomy := Nat.le_max_right _ _
  inside := Nat.le_refl 0
  fits := Nat.zero_le _
  starting _ _ := rfl
  serving := nofun
  closing := nofun
  balanced _ := by
    show [] = p.accepted ++ []
    rw [untaken]
    rfl
  behind := by
    show p.accepted <+: []
    exact ⟨[], by rw [untaken]; rfl⟩
  counted := by
    show 0 = min p.accepted.length _
    rw [untaken]
    rfl
  ended := nofun

/-! ## Every step keeps the books -/

variable [DatasetStream ω ι] [DatasetStream ω δ]

omit [DatasetStream ω δ] in
/-- A wait puts the input on the agenda only while the relay's end of the child's input is open. -/
theorem writeOpen_of_servesInput (h : servesInput (tasks r.ready) = true) :
    r.plumbing.stdin.writeOpen = true := by
  cases hopen : r.plumbing.stdin.writeOpen with
  | true => rfl
  | false =>
    have hstill : (r.ready.input || r.ready.stdin) = false := by simp [ready, watched, hopen]
    rw [servesInput_of_sublist (tasks_of_still hstill)] at h
    cases h

theorem head_tasks (ready : Readiness) : (∀ rest, tasks ready ≠ .start :: rest) ∧
    ∀ rest, tasks ready ≠ .closeInput :: rest := by
  unfold tasks
  split <;> split <;> split <;> exact ⟨nofun, nofun⟩

/-- Only a wait puts the input on the agenda. -/
theorem Deed.not_serveInput {task : RelayTask} {rest : List RelayTask} (h : Deed r rest task r')
    (orderly : rest.Sublist outputTasks) (rest' : List RelayTask) : r'.agenda ≠ .serveInput :: rest' := by
  intro next
  rcases h.agenda with ⟨hnil, -⟩ | ⟨-, hrest | hsend | hclose | ⟨c, chunk, -, hdeliver⟩⟩
  · cases hnil.symm.trans next
  · cases head_of_sublist orderly (hrest.symm.trans next)
  · cases hsend.symm.trans next
  · cases hclose.symm.trans next
  · cases hdeliver.symm.trans next

theorem Turn.inputInv [LawfulReads ω ι] (h : Turn r r') (hi : InputInv r) : InputInv r' := by
  have horderly := h.orderly hi.orderly
  cases h with
  | head running idle head =>
    have same := head.sides.2
    cases head with
    | drained | stopped =>
      refine hi.frameOutputs same ?_
      rw [idle]
      exact List.nil_sublist _
    | woken => exact hi.frame same horderly (head_tasks _).1 (head_tasks _).2 writeOpen_of_servesInput
  | deed running next deed =>
    have hrest := hi.orderly.rest next
    cases deed with
    | unblocked isOpen set =>
      cases Pipe.setNonblocking_ok set
      exact hi.goOn next rfl rfl
    | alreadyClosed => exact hi.goOn next rfl rfl
    | noInput => exact hi.finishInput next
    | readFailed => exact hi.fail _ (.inr ⟨.read (.error _), nofun, rfl, rfl⟩)
    | inputEnded used => exact hi.inputEnded next used
    | refilled used read some => exact hi.refilled next used some (LawfulReads.read_length read)
    | sent offers write => exact hi.sent next write
    | refused => exact hi.goOn next rfl rfl
    | broken => exact hi.finishInput next
    | sendFailed => exact hi.fail _ (.inl rfl)
    | inputClosed => exact hi.inputClosed next
    | closeFailed => exact hi.fail _ (.inr ⟨.close (.error _), nofun, rfl, rfl⟩)
    | outputEnded => exact hi.frameOutputs {} hrest
    | outputFailed => exact hi.frameOutputs {} (List.nil_sublist _)
    | @delivered c => exact hi.frameOutputs { counter := by cases c <;> rfl } hrest
    | deliverFailed => exact hi.frameOutputs {} (List.nil_sublist _)
    | outputRead => exact hi.frame {} horderly nofun nofun nofun

/-- The books agree at every point of every run. -/
theorem inputInv_run [LawfulReads ω ι] {p : Plumbing} (untaken : p.accepted = []) (machine : ω) (input : ι)
    (outputs : OutputRoutes δ) (policy : StopPolicy) (bufferSize : Nat) (schedule : List (Event ω)) :
    InputInv ((create p machine input outputs policy bufferSize).run schedule) :=
  run_induction (fun _ action hi => hi.outside action) (fun _ _ hi => { hi with })
    (fun _ _ hi h => h.inputInv hi) schedule _ (inputInv_create untaken machine input outputs policy bufferSize)

/-! ## Why the child's input is closed -/

/-- The relay closes the child's input because nobody reads it any more, because the input has reported its
end, or because the input was never open. -/
theorem Turn.closes (h : Turn r r') (before : r.plumbing.stdin.writeOpen = true)
    (after : r'.plumbing.stdin.writeOpen = false) :
    (∃ e stdin, r.plumbing.stdin.write r.pending = (.failed e, stdin) ∧ e.isBroken = true) ∨
    r'.history = .read (.ok []) :: r.history ∨
    ∃ rest, r.agenda = .start :: rest ∧ DatasetStream.isOpen ω r.input = false ∧ r' = r.finishInput rest := by
  cases h with
  | head running idle head =>
    rw [head.sides.2.stdin, before] at after
    cases after
  | deed running next deed =>
    rcases deed.side with ⟨input, -⟩ | ⟨-, same⟩
    · cases deed with
      | unblocked isOpen set =>
        cases Pipe.setNonblocking_ok set
        exact absurd (before.symm.trans after) nofun
      | noInput unopened => exact .inr (.inr ⟨_, next, unopened, rfl⟩)
      | inputEnded => exact .inr (.inl rfl)
      | broken offers write broken => exact .inl ⟨_, _, write, broken⟩
      | sent offers write =>
        obtain ⟨hopen, hoffer⟩ := Pipe.write_done write
        rw [(Pipe.offer_done hoffer).1] at after
        exact absurd (before.symm.trans after) nofun
      | alreadyClosed | readFailed | refilled | refused | sendFailed | inputClosed | closeFailed =>
        exact absurd (before.symm.trans after) nofun
      | _ => cases input
    · rw [same.stdin, before] at after
      cases after

/-! ## The whole input -/

/-- What was read of an input whose whole content is `whole`. -/
structure WholeInv (left : ι → OutputRoutes δ → ω → Bytes → Prop) (whole : Bytes) (r : Relay ω ι δ) : Prop where
  unread : r.plumbing.stdin.writeOpen = true → r.outcome = none →
    ∃ more, left r.input r.outputs r.machine more ∧ whole = r.inputRead ++ more
  within : r.inputRead <+: whole
  ended : .read (.ok []) ∈ r.history → r.inputRead = whole

section Whole

variable {left : ι → OutputRoutes δ → ω → Bytes → Prop} {whole : Bytes}

omit [DatasetStream ω ι] [DatasetStream ω δ] in
/-- What does not read the input keeps what was read of it. -/
theorem WholeInv.frame (h : WholeInv left whole r)
    (calls : r'.history = r.history ∨
      ∃ call, call ≠ .read (.ok []) ∧ call.got = [] ∧ r'.history = call :: r.history)
    (unread : r'.plumbing.stdin.writeOpen = true → r'.outcome = none →
      r.plumbing.stdin.writeOpen = true ∧ r.outcome = none ∧
        ∀ more, left r.input r.outputs r.machine more → left r'.input r'.outputs r'.machine more) :
    WholeInv left whole r' := by
  have hread : r'.inputRead = r.inputRead := by
    unfold inputRead total
    rcases calls with hsame | ⟨call, -, hgot, hnew⟩
    · rw [hsame]
    · simp [hnew, hgot]
  refine ⟨fun hopen hrunning => ?_, ?_, fun hend => ?_⟩
  · obtain ⟨hopen', hrunning', hleft⟩ := unread hopen hrunning
    obtain ⟨more, hmore, hwhole⟩ := h.unread hopen' hrunning'
    exact ⟨more, hleft more hmore, by rw [hread, hwhole]⟩
  · rw [hread]
    exact h.within
  · rw [hread]
    refine h.ended ?_
    rcases calls with hsame | ⟨call, hcall, -, hnew⟩
    · rwa [← hsame]
    · rw [hnew] at hend
      exact (List.mem_cons.mp hend).resolve_left (Ne.symm hcall)

/-- A read takes the next bytes of the whole input. -/
theorem WholeInv.read (law : ContentLaw left) (h : WholeInv left whole r) (hi : InputInv r)
    (running : r.outcome = none) {rest : List RelayTask} (next : r.agenda = .serveInput :: rest)
    {bytes : Bytes} {input : ι} {machine : ω} (read : r.nextRead = (.done bytes, input, machine)) :
    ∃ more, left input r.outputs machine more ∧ whole = r.inputRead ++ (bytes ++ more) ∧
      (bytes = [] → more = []) := by
  -- the input is served only while the child's input is open
  obtain ⟨content, hleft, hwhole⟩ := h.unread (hi.serving (by rw [next]; rfl)) running
  obtain ⟨more, hcontent, hmore, hend⟩ := law.read hi.roomy hleft read
  refine ⟨more, hmore, by rw [hwhole, hcontent], fun hnil => ?_⟩
  rw [hnil, List.nil_append] at hcontent
  rw [← hcontent, hend hnil]

theorem Turn.wholeInv (law : ContentLaw left) (h : Turn r r') (hi : InputInv r) (hw : WholeInv left whole r) :
    WholeInv left whole r' := by
  cases h with
  | head running idle head =>
    cases head with
    | drained | stopped => exact hw.frame (.inl rfl) nofun
    | woken => exact hw.frame (.inl rfl) fun hopen _ => ⟨hopen, running, fun _ hleft => hleft⟩
  | deed running next deed =>
    cases deed with
    | unblocked isOpen set =>
      cases Pipe.setNonblocking_ok set
      exact hw.frame (.inl rfl) fun hopen _ => ⟨hopen, running, fun _ hleft => hleft⟩
    | alreadyClosed | refused => exact hw.frame (.inl rfl) fun hopen _ => ⟨hopen, running, fun _ hleft => hleft⟩
    | noInput | broken => exact hw.frame (.inl rfl) nofun
    | readFailed => exact hw.frame (.inr ⟨.read (.error _), nofun, rfl, rfl⟩) nofun
    | @inputEnded input machine used read =>
      obtain ⟨more, -, hwhole, hnil⟩ := hw.read law hi running next read
      have hread : ({ r with input, machine }.noted (.read (.ok []))).inputRead = r.inputRead ++ [] :=
        inputRead_noted ..
      have hall : ({ r with input, machine }.noted (.read (.ok []))).inputRead = whole := by
        rw [hread, hwhole, hnil rfl]
        rfl
      refine ⟨nofun, ?_, fun _ => hall⟩
      exact ⟨[], (List.append_nil _).trans hall⟩
    | @refilled bytes input machine used read some =>
      obtain ⟨more, hleft, hwhole, -⟩ := hw.read law hi running next read
      have hread : ({ r with input, machine }.noted (.read (.ok bytes))).inputRead = r.inputRead ++ bytes :=
        inputRead_noted ..
      refine ⟨fun _ _ => ⟨more, hleft, ?_⟩, ?_, fun hend => ?_⟩
      · show whole = ({ r with input, machine }.noted (.read (.ok bytes))).inputRead ++ more
        rw [hread, hwhole, List.append_assoc]
      · show ({ r with input, machine }.noted (.read (.ok bytes))).inputRead <+: whole
        rw [hread, hwhole, ← List.append_assoc]
        exact List.prefix_append _ _
      · rcases List.mem_cons.mp hend with heq | hmem
        · cases heq
          exact absurd rfl some
        · exact absurd ((hi.serving (by rw [next]; rfl)).symm.trans (hi.ended hmem).1) nofun
    | sent offers write =>
      exact hw.frame (.inl rfl) fun _ _ => ⟨(Pipe.write_done write).1, running, fun _ hleft => hleft⟩
    | sendFailed | outputFailed => exact hw.frame (.inl rfl) nofun
    | inputClosed =>
      refine hw.frame (.inr ⟨.close (.ok ()), nofun, rfl, rfl⟩) fun hopen _ => ?_
      exact absurd (hopen.symm.trans (hi.closing _ next)) nofun
    | closeFailed => exact hw.frame (.inr ⟨.close (.error _), nofun, rfl, rfl⟩) nofun
    | outputEnded | outputRead =>
      refine hw.frame (.inl rfl) fun hopen _ => ⟨?_, running, fun _ hleft => hleft⟩
      rw [← hopen]
      exact congrArg Pipe.writeOpen (Plumbing.stdin_setOutput ..).symm
    | delivered sink write =>
      exact hw.frame (.inr ⟨.write _ _ _ (.ok ()), nofun, rfl, rfl⟩)
        fun hopen _ => ⟨hopen, running, fun _ hleft => law.write hleft write⟩
    | deliverFailed => exact hw.frame (.inr ⟨.write _ _ _ (.error _), nofun, rfl, rfl⟩) nofun

/-- An input that nobody else touches is read from front to back. -/
theorem wholeInv_run [LawfulReads ω ι] {p : Plumbing} (untaken : p.accepted = []) {machine : ω} {input : ι}
    {outputs : OutputRoutes δ} (policy : StopPolicy) (bufferSize : Nat) {schedule : List (Event ω)}
    (law : ContentLaw left) (start : left input outputs machine whole)
    (untouched : ∀ change, .elsewhere change ∈ schedule → ∀ input outputs machine content,
      left input outputs machine content → left input outputs (change machine) content) :
    WholeInv left whole ((create p machine input outputs policy bufferSize).run schedule) := by
  have hstart : WholeInv left whole (create p machine input outputs policy bufferSize) :=
    ⟨fun _ _ => ⟨whole, start, rfl⟩, List.nil_prefix, nofun⟩
  have hkeep : ∀ e ∈ schedule, ∀ r : Relay ω ι δ, InputInv r ∧ WholeInv left whole r →
      InputInv (r.advance e) ∧ WholeInv left whole (r.advance e) := by
    rintro e he r ⟨hi, hw⟩
    refine advance_cases (P := fun r => InputInv r ∧ WholeInv left whole r) r e ?_ ?_ ?_ ⟨hi, hw⟩
    · rintro action rfl
      refine ⟨hi.outside action, hw.frame (.inl rfl) fun hopen hrunning => ?_⟩
      rw [(r.plumbing.perform_effect action).writeOpen_eq] at hopen
      exact ⟨hopen, hrunning, fun _ hleft => hleft⟩
    · rintro change rfl
      exact ⟨{ hi with }, hw.frame (.inl rfl) fun hopen hrunning =>
        ⟨hopen, hrunning, fun _ hleft => untouched change he _ _ _ _ hleft⟩⟩
    · intro r' h
      exact ⟨h.inputInv hi, h.wholeInv law hi hw⟩
  exact (run_keeps (P := fun r => InputInv r ∧ WholeInv left whole r) schedule _ hkeep
    ⟨inputInv_create untaken machine input outputs policy bufferSize, hstart⟩).2

/-- After its end was reported, an input that nobody else touches has been accepted as a whole. -/
theorem whole_accepted [LawfulReads ω ι] {p : Plumbing} (untaken : p.accepted = []) {machine : ω} {input : ι}
    {outputs : OutputRoutes δ} (policy : StopPolicy) (bufferSize : Nat) {schedule : List (Event ω)}
    (law : ContentLaw left) (start : left input outputs machine whole)
    (untouched : ∀ change, .elsewhere change ∈ schedule → ∀ input outputs machine content,
      left input outputs machine content → left input outputs (change machine) content)
    (ended : .read (.ok []) ∈ ((create p machine input outputs policy bufferSize).run schedule).history) :
    ((create p machine input outputs policy bufferSize).run schedule).plumbing.accepted = whole := by
  have hi := inputInv_run untaken machine input outputs policy bufferSize schedule
  have hw := wholeInv_run untaken policy bufferSize law start untouched
  rw [(hi.ended ended).2, hw.ended ended]

end Whole

/-- A regular file that nobody else changes is passed to the child as a whole. -/
theorem file_accepted {p : Plumbing} (untaken : p.accepted = []) {fs : FileSystem} {input : Dataset}
    {outputs : OutputRoutes Dataset} (policy : StopPolicy) (bufferSize : Nat)
    {schedule : List (Event FileSystem)} {file : OpenFile} {content : Bytes}
    (handle : input.handle = some (.reader [] file)) (readable : file.access ≠ .write)
    (atStart : file.offset = 0) (content_eq : fs.Holds file.node content)
    (elsewhere : ∀ place, (outputs.get place).Avoids file.node)
    (untouched : ∀ change, .elsewhere change ∈ schedule → ∀ fs id, (change fs).node id = fs.node id)
    (ended : .read (.ok []) ∈ ((create p fs input outputs policy bufferSize).run schedule).history) :
    ((create p fs input outputs policy bufferSize).run schedule).plumbing.accepted = content := by
  have hfile : input.file? = some file := by rw [Dataset.file?, handle]; rfl
  refine whole_accepted untaken policy bufferSize Dataset.fileLeft_law ⟨⟨[], file, content, handle, readable,
    content_eq, by rw [atStart]; rfl⟩, fun file' hfile' => ?_⟩ ?_ ended
  · cases hfile.symm.trans hfile'
    exact elsewhere
  · rintro change hmem d outputs fs rest ⟨⟨buffer, file', all, hhandle, haccess, hholds, rfl⟩, havoid⟩
    exact ⟨⟨buffer, file', all, hhandle, haccess, hholds.of_node_eq (untouched change hmem fs _), rfl⟩, havoid⟩

/-! ## The main statement -/

/-- **At every point of every run, what is left of the chunk in flight lies inside the buffer, and as long as
the relay's end of the child's input is open, what was read from the input is what the child's input has
accepted, followed by what is left of the chunk.** The relay closes its end in one step for one of three
reasons. If the input has reported its end, or was never open, everything that was read has been accepted, and
that is the whole content of an input that has one; if nobody reads the pipe any more, a first part of it has
been accepted. The counter counts what has been accepted. -/
theorem input_intact [LawfulReads ω ι] {p : Plumbing} (untaken : p.accepted = []) (machine : ω) (input : ι)
    (outputs : OutputRoutes δ) (policy : StopPolicy) (bufferSize : Nat) (schedule : List (Event ω)) :
    let r := (create p machine input outputs policy bufferSize).run schedule
    (r.taken ≤ r.chunk.length ∧ r.chunk.length ≤ max bufferSize 1) ∧
    (r.plumbing.stdin.writeOpen = true → r.inputRead = r.plumbing.accepted ++ r.pending) ∧
    (.read (.ok []) ∈ r.history →
      r.plumbing.stdin.writeOpen = false ∧ r.plumbing.accepted = r.inputRead) ∧
    (∀ left whole, ContentLaw left → left input outputs machine whole →
      (∀ change, .elsewhere change ∈ schedule → ∀ input outputs machine content,
        left input outputs machine content → left input outputs (change machine) content) →
      r.inputRead <+: whole ∧ (.read (.ok []) ∈ r.history → r.plumbing.accepted = whole)) ∧
    r.plumbing.accepted <+: r.inputRead ∧
    (∀ r', r.turn? = some r' → r.plumbing.stdin.writeOpen = true → r'.plumbing.stdin.writeOpen = false →
      (∃ e stdin, r.plumbing.stdin.write r.pending = (.failed e, stdin) ∧ e.isBroken = true) ∨
      r'.history = .read (.ok []) :: r.history ∨
      (DatasetStream.isOpen ω r.input = false ∧ r'.plumbing.accepted = r'.inputRead)) ∧
    r.stats.counter .stdin = min r.plumbing.accepted.length RelayStats.limit := by
  intro r
  have hi : InputInv r := inputInv_run untaken machine input outputs policy bufferSize schedule
  have hsize : r.bufferSize = max bufferSize 1 := (settings_run _ schedule).2
  refine ⟨⟨hi.inside, hsize ▸ hi.fits⟩, hi.balanced, hi.ended, ?_, hi.behind, ?_, hi.counted⟩
  · intro left whole law start untouched
    have hw : WholeInv left whole r := wholeInv_run untaken policy bufferSize law start untouched
    exact ⟨hw.within, whole_accepted untaken policy bufferSize law start untouched⟩
  · intro r' hturn before after
    rcases (turn_of_turn? hturn).closes before after with hbroken | hend | ⟨rest, next, hopen, rfl⟩
    · exact .inl hbroken
    · exact .inr (.inl hend)
    · refine .inr (.inr ⟨hopen, ?_⟩)
      have hall := hi.balanced before
      rw [hi.starting rest next, List.append_nil] at hall
      exact hall.symm

/-- Five bytes of input, read two at a time. -/
def fiveBytes : Relay Unit Rehearsal.MemoryDataset Rehearsal.MemoryDataset :=
  create .fresh () { name := "SYSIN", content := [1, 2, 3, 4, 5] }
    { stdout := { name := "STDOUT" }, stderr := { name := "STDERR" }, fallback := { name := "SYSOUT" } }
    .drainToEof 2

/-- The child takes one byte; then the relay reads on to the end of the input. -/
def fiveBytesSchedule : List (Event Unit) :=
  List.replicate 4 .turn ++ .outside (.take 1) :: List.replicate 8 .turn

/-- When the end was reported, the child's input has accepted all five bytes. -/
theorem input_intact_fiveBytes :
    Plumbing.fresh.accepted = [] ∧ (fiveBytes.run fiveBytesSchedule).plumbing.accepted = [1, 2, 3, 4, 5] ∧
      (fiveBytes.run fiveBytesSchedule).stats.counter .stdin = 5 := by
  have huntaken : Plumbing.fresh.accepted = [] := rfl
  obtain ⟨-, -, -, hwhole, -, -, hcounted⟩ := input_intact huntaken () fiveBytes.input fiveBytes.outputs
    .drainToEof 2 fiveBytesSchedule
  obtain ⟨-, hended⟩ := hwhole Rehearsal.MemoryDataset.Left [1, 2, 3, 4, 5]
    (Rehearsal.MemoryDataset.memoryLeft_law _ _) ⟨rfl, nofun, rfl⟩ (by simp [fiveBytesSchedule])
  have haccepted : (fiveBytes.run fiveBytesSchedule).plumbing.accepted = [1, 2, 3, 4, 5] :=
    hended List.mem_cons_self
  refine ⟨huntaken, haccepted, ?_⟩
  calc (fiveBytes.run fiveBytesSchedule).stats.counter .stdin
      = min (fiveBytes.run fiveBytesSchedule).plumbing.accepted.length RelayStats.limit := hcounted
    _ = 5 := by rw [haccepted]; rfl

end BatchJob.Relay
