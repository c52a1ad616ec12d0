import Mathlib.Algebra.GroupWithZero.Nat
import BatchJob.Proofs.Relay.Blocking

/-!
# The end of a run after the signal

Once the shutdown signal was posted and no other party acts, a run comes to its end: at once under the policy
that follows the signal only, and under the policy that drains if nobody can write to the outputs any more.

The input may have no end, so that what is left of it is no measure of what is left to do. What a wait can cause
is charged to the plumbing instead (`waitsLeft`): a wait that finds the input side ready takes up room in the
child's input, or closes it, or is the last one before a full pipe leaves a part of the chunk behind; a wait that
finds an output ready takes bytes out of it, or closes it; and a wait that finds nothing but the signal ends the
run or is the one after which the signal is not watched any more. Between two waits the agenda gets shorter
(`work`).

Main statement: `ends_after_shutdown`.
-/

namespace BatchJob.Relay

variable {ω ι δ : Type} {r r' : Relay ω ι δ}

/-! ## What is left to do -/

/-- How many waits the input side can still cause: one for each byte that fits into the child's input, and one
for a chunk that does not fit any more. -/
def inputWaits (r : Relay ω ι δ) : Nat :=
  if r.plumbing.stdin.writeOpen = false then 0
  else if servesInput r.agenda then (if r.plumbing.stdin.hasReader then r.plumbing.stdin.room else 0)
  else if r.plumbing.stdin.hasReader = false then 1
  else if r.plumbing.stdin.room = 0 ∧ r.pending ≠ [] then 0
  else r.plumbing.stdin.room + 1

/-- How many waits an output can still cause: one for each byte in it, and one for its end. -/
def outputWaits (r : Relay ω ι δ) (c : OutputChannel) : Nat :=
  (if (r.plumbing.output c).readOpen then (r.plumbing.output c).queue.size + 1 else 0) -
    (if .serveOutput c ∈ r.agenda then 1 else 0)

/-- How many waits the signal can still cause. -/
def signalWaits (r : Relay ω ι δ) : Nat :=
  if r.policy == .drainToEof && r.draining then 0 else 1

/-- How many waits there can still be. -/
def waitsLeft (r : Relay ω ι δ) : Nat :=
  r.inputWaits + r.outputWaits .stdout + r.outputWaits .stderr + r.signalWaits

/-- How many steps a task can take, those included that it puts on the agenda. -/
def taskWork : RelayTask → Nat
  | .serveInput => 3
  | .start | .sendChunk | .serveOutput _ => 2
  | .closeInput | .deliver _ _ => 1

/-- How many steps there can be before the next wait. -/
def work (r : Relay ω ι δ) : Nat :=
  (r.agenda.map taskWork).sum

theorem inputWaits_closed (h : r.plumbing.stdin.writeOpen = false) : r.inputWaits = 0 := by
  unfold inputWaits
  rw [if_pos h]

theorem inputWaits_serving (h : r.plumbing.stdin.writeOpen = true) (serving : servesInput r.agenda = true) :
    r.inputWaits = if r.plumbing.stdin.hasReader then r.plumbing.stdin.room else 0 := by
  unfold inputWaits
  rw [h, serving]
  rfl

theorem inputWaits_le (r : Relay ω ι δ) : r.inputWaits ≤ r.plumbing.stdin.room + 1 := by
  unfold inputWaits
  split
  next => omega
  next =>
    split
    next => split <;> omega
    next =>
      split
      next => omega
      next => split <;> omega

/-- The waits that the input side can cause depend on the child's input, on what is left of the chunk, and on
whether the input is being served. -/
theorem inputWaits_congr (opened : r'.plumbing.stdin.writeOpen = r.plumbing.stdin.writeOpen)
    (reader : r'.plumbing.stdin.hasReader = r.plumbing.stdin.hasReader)
    (room : r'.plumbing.stdin.room = r.plumbing.stdin.room) (left : r'.pending = r.pending)
    (serving : servesInput r'.agenda = servesInput r.agenda) : r'.inputWaits = r.inputWaits := by
  unfold inputWaits
  rw [opened, reader, room, left, serving]

theorem outputWaits_le (r : Relay ω ι δ) (c : OutputChannel) :
    r.outputWaits c ≤ (r.plumbing.output c).queue.size + 1 := by
  unfold outputWaits
  split <;> omega

theorem signalWaits_le (r : Relay ω ι δ) : r.signalWaits ≤ 1 := by
  unfold signalWaits
  split <;> omega

/-- There are no more waits than there is room and there are bytes, up to a constant. -/
theorem waitsLeft_le (r : Relay ω ι δ) : r.waitsLeft ≤
    r.plumbing.stdin.room + r.plumbing.stdout.queue.size + r.plumbing.stderr.queue.size + 4 := by
  have hinput := r.inputWaits_le
  have hstdout : r.outputWaits .stdout ≤ r.plumbing.stdout.queue.size + 1 := r.outputWaits_le .stdout
  have hstderr : r.outputWaits .stderr ≤ r.plumbing.stderr.queue.size + 1 := r.outputWaits_le .stderr
  have hsignal := r.signalWaits_le
  unfold waitsLeft
  omega

/-- The waits that an output can cause depend on that output only, and on whether it is to be served. -/
theorem outputWaits_congr {c : OutputChannel} (same : r'.plumbing.output c = r.plumbing.output c)
    (served : .serveOutput c ∈ r'.agenda ↔ .serveOutput c ∈ r.agenda) : r'.outputWaits c = r.outputWaits c := by
  unfold outputWaits
  rw [same]
  simp only [served]

variable [DatasetStream ω ι] [DatasetStream ω δ]

/-! ## Tasks -/

section Task

variable {task : RelayTask} {rest : List RelayTask}

/-- A task leaves less work than it was. -/
theorem Deed.work_lt (h : Deed r rest task r') (next : r.agenda = task :: rest) (going : r'.outcome = none) :
    r'.work < r.work := by
  unfold work
  rw [next]
  cases h with
  | readFailed | sendFailed | closeFailed | outputFailed | deliverFailed => cases going
  | sent offers | refused offers | broken offers =>
    rcases offers with rfl | ⟨rfl, -⟩ <;> simp [finishInput, taskWork]
  | _ => simp [finishInput, taskWork]

/-- Which outputs wait to be served behind a task. -/
theorem Deed.still_served (h : Deed r rest task r') (going : r'.outcome = none)
    (c : OutputChannel) : .serveOutput c ∈ r'.agenda ↔ .serveOutput c ∈ rest := by
  rcases h.agenda with ⟨-, hover⟩ | ⟨-, hrest | hsend | hclose | ⟨c', chunk, -, hdeliver⟩⟩
  · exact absurd going hover
  · rw [hrest]
  · simp [hsend]
  · simp [hclose]
  · simp [hdeliver]

/-- What is left of a chunk is not empty while it is to be sent. -/
def Laden (r : Relay ω ι δ) : Prop :=
  ∀ rest, r.agenda = .sendChunk :: rest → r.pending ≠ []

omit [DatasetStream ω ι] [DatasetStream ω δ] in
theorem Laden.offers (h : Laden r) (next : r.agenda = task :: rest) (offers : r.Offers task) : r.pending ≠ [] := by
  rcases offers with rfl | ⟨-, hleft⟩
  · exact h rest next
  · exact hleft

omit [DatasetStream ω ι] [DatasetStream ω δ] in
theorem Offers.serves (h : r.Offers task) (next : r.agenda = task :: rest) : servesInput r.agenda = true := by
  rw [next]
  rcases h with rfl | ⟨rfl, -⟩ <;> rfl

/-- A task adds nothing to what the input side can cause. -/
theorem Deed.inputWaits_le (h : Deed r rest task r') (hi : InputInv r) (laden : Laden r)
    (next : r.agenda = task :: rest) (going : r'.outcome = none) : r'.inputWaits ≤ r.inputWaits := by
  have hrest := servesInput_of_sublist (hi.orderly.rest next)
  have hresting (input : servesInput (task :: rest) = false) : servesInput rest = servesInput r.agenda := by
    rw [next, input, hrest]
  have hclosed (shut : r'.plumbing.stdin.writeOpen = false) : r'.inputWaits ≤ r.inputWaits := by
    rw [inputWaits_closed shut]
    exact Nat.zero_le _
  cases h with
  | readFailed | sendFailed | closeFailed | outputFailed | deliverFailed => cases going
  | unblocked isOpen set =>
    cases Pipe.setNonblocking_ok set
    exact Nat.le_of_eq (inputWaits_congr rfl rfl rfl rfl (hresting rfl))
  | alreadyClosed isOpen shut => exact hclosed shut
  | noInput | inputEnded | broken => exact hclosed rfl
  | inputClosed => exact hclosed (hi.closing rest next)
  | refilled =>
    have hserves : servesInput r.agenda = true := by rw [next]; rfl
    have hopen := hi.serving hserves
    refine Nat.le_of_eq ?_
    rw [inputWaits_serving hopen hserves]
    exact inputWaits_serving hopen rfl
  | @sent _ n stdin offers write =>
    obtain ⟨hopen, hoffer⟩ := Pipe.write_done write
    obtain ⟨hreader, hn, hroom⟩ := Pipe.offer_done_some (laden.offers next offers) hoffer
    rw [inputWaits_serving hopen (offers.serves next), if_pos hreader, ← hroom]
    -- every byte that was taken makes up for the wait that the rest of the chunk may cause
    refine Nat.le_trans (Relay.inputWaits_le _) ?_
    show stdin.room + 1 ≤ stdin.room + n
    omega
  | refused offers write full =>
    obtain ⟨hreader, hroom⟩ := Pipe.write_refused write full
    have hleft := laden.offers next offers
    have hopen := hi.serving (offers.serves next)
    -- a full pipe has to be waited for until somebody reads from it
    have hnone : ({ r with agenda := rest } : Relay ω ι δ).inputWaits = 0 := by
      unfold inputWaits
      simp only
      rw [hopen, hrest, hreader, if_neg nofun, if_neg nofun, if_neg nofun, if_pos ⟨hroom, hleft⟩]
    exact Nat.le_trans (Nat.le_of_eq hnone) (Nat.zero_le _)
  | outputEnded | outputRead =>
    have hsame := Plumbing.stdin_setOutput r.plumbing
    refine Nat.le_of_eq (inputWaits_congr ?_ ?_ ?_ rfl ?_)
    · rw [hsame]
    · rw [hsame]
    · rw [hsame]
    · first | exact hresting rfl | exact (congrArg servesInput next).symm
  | delivered => exact Nat.le_of_eq (inputWaits_congr rfl rfl rfl rfl (hresting rfl))

/-- A task adds nothing to what an output can cause. -/
theorem Deed.outputWaits_le (h : Deed r rest task r') (next : r.agenda = task :: rest) (going : r'.outcome = none)
    (c : OutputChannel) : r'.outputWaits c ≤ r.outputWaits c := by
  have hserved := h.still_served going c
  have hkept (other : task ≠ .serveOutput c) (same : r'.plumbing.output c = r.plumbing.output c) :
      r'.outputWaits c ≤ r.outputWaits c := by
    refine Nat.le_of_eq (outputWaits_congr same ?_)
    rw [hserved, next]
    simp [other.symm]
  rcases h.side with ⟨input, same⟩ | ⟨output, -⟩
  · refine hkept ?_ (same.output c)
    rintro rfl
    cases input
  · cases h with
    | outputFailed | deliverFailed => cases going
    | delivered => exact hkept nofun rfl
    | @outputEnded c' pipe read =>
      by_cases hc : c = c'
      · subst hc
        unfold outputWaits
        rw [Plumbing.output_setOutput]
        exact Nat.le_trans (Nat.sub_le _ _) (Nat.zero_le _)
      · exact hkept (fun h => hc (RelayTask.serveOutput.inj h).symm) (Plumbing.output_setOutput_ne hc _)
    | @outputRead c' bytes pipe read some =>
      by_cases hc : c = c'
      · subst hc
        have hopen := (Pipe.read_done read).1
        obtain ⟨hends, hqueue, -⟩ := Pipe.fetch_done (Pipe.read_done read).2
        have hlen : bytes.length + pipe.queue.size = (r.plumbing.output c).queue.size := by
          rw [← ByteQueue.length_toList, ← ByteQueue.length_toList, ← hqueue, List.length_append]
        have hsome : 0 < bytes.length := List.length_pos_iff.mpr some
        unfold outputWaits
        rw [Plumbing.output_setOutput, next, hopen, if_pos rfl, if_pos List.mem_cons_self]
        split <;> split <;> omega
      · exact hkept (fun h => hc (RelayTask.serveOutput.inj h).symm) (Plumbing.output_setOutput_ne hc _)
    | sent offers | refused offers | broken offers | sendFailed offers => exact (offers.not_output output).elim
    | _ => cases output

theorem Deed.signalWaits_eq (h : Deed r rest task r') : r'.signalWaits = r.signalWaits := by
  unfold signalWaits
  rw [h.draining]
  cases h <;> rfl

/-- Only a wait is counted. -/
theorem Deed.iterations (h : Deed r rest task r') : r'.stats.iterations = r.stats.iterations := by
  cases h with
  | @delivered c => cases c <;> rfl
  | _ => rfl

/-- A task adds nothing to the waits that are left, and leaves less work. -/
theorem Deed.waitsLeft_le (h : Deed r rest task r') (hi : InputInv r) (laden : Laden r)
    (next : r.agenda = task :: rest) (going : r'.outcome = none) : r'.waitsLeft ≤ r.waitsLeft := by
  have hinput := h.inputWaits_le hi laden next going
  have hstdout := h.outputWaits_le next going .stdout
  have hstderr := h.outputWaits_le next going .stderr
  have hsignal := h.signalWaits_eq
  unfold waitsLeft
  omega

end Task

/-! ## Waits -/

theorem servesInput_tasks (ready : Readiness) : servesInput (tasks ready) = (ready.input || ready.stdin) := by
  cases h : ready.input || ready.stdin with
  | false => exact servesInput_of_sublist (tasks_of_still h)
  | true =>
    unfold tasks
    rw [if_pos h]
    rfl

theorem served_tasks (ready : Readiness) :
    (.serveOutput .stdout ∈ tasks ready ↔ ready.stdout = true) ∧
      (.serveOutput .stderr ∈ tasks ready ↔ ready.stderr = true) := by
  refine ⟨⟨fun h => mem_tasks h, fun h => ?_⟩, ⟨fun h => mem_tasks h, fun h => ?_⟩⟩
  · simp [tasks, h]
  · simp [tasks, h]

theorem work_tasks (ready : Readiness) : ((tasks ready).map taskWork).sum ≤ 7 := by
  unfold tasks
  split <;> split <;> split <;> decide

section Wait

variable (agenda : List RelayTask) (stats : RelayStats) (draining : Bool)

omit [DatasetStream ω δ] in
/-- A wait that finds the input side ready uses up one of the waits that it can cause. -/
theorem inputWaits_woken (idle : r.agenda = []) :
    ({ r with stats, agenda := tasks r.ready, draining } : Relay ω ι δ).inputWaits +
      (if r.ready.input || r.ready.stdin then 1 else 0) ≤ r.inputWaits := by
  have hresting : servesInput r.agenda = false := by rw [idle]; rfl
  cases hready : r.ready.input || r.ready.stdin with
  | false =>
    rw [if_neg Bool.false_ne_true, Nat.add_zero]
    refine Nat.le_of_eq (inputWaits_congr rfl rfl rfl rfl ?_)
    exact (servesInput_tasks _).trans (hready.trans hresting.symm)
  | true =>
    have hserves : servesInput (tasks r.ready) = true := (servesInput_tasks _).trans hready
    have hopen := writeOpen_of_servesInput hserves
    have hafter : ({ r with stats, agenda := tasks r.ready, draining } : Relay ω ι δ).inputWaits =
        if r.plumbing.stdin.hasReader then r.plumbing.stdin.room else 0 := inputWaits_serving hopen hserves
    rw [hafter, if_pos rfl]
    unfold inputWaits
    rw [hopen, hresting]
    simp only [Bool.true_eq_false, Bool.false_eq_true, if_false]
    cases hreader : r.plumbing.stdin.hasReader with
    | false => exact Nat.le_refl 1
    | true =>
      -- a full pipe in front of a chunk is not ready
      have hroomy : ¬ (r.plumbing.stdin.room = 0 ∧ r.pending ≠ []) := by
        rintro ⟨hroom, hleft⟩
        unfold ready watched Pipe.isWritable at hready
        simp [hroom, hleft, hreader] at hready
      simp only [Bool.true_eq_false, if_false, if_true]
      exact Nat.le_of_eq (if_neg hroomy).symm

omit [DatasetStream ω δ] in
/-- A wait that finds an output ready uses up one of the waits that it can cause. -/
theorem outputWaits_woken (idle : r.agenda = []) (c : OutputChannel) :
    ({ r with stats, agenda := tasks r.ready, draining } : Relay ω ι δ).outputWaits c +
      (if .serveOutput c ∈ tasks r.ready then 1 else 0) = r.outputWaits c := by
  unfold outputWaits
  rw [idle]
  simp only [List.not_mem_nil, if_false, Nat.sub_zero]
  by_cases hserved : .serveOutput c ∈ tasks r.ready
  · have hopen := (ready_of_served hserved).1
    rw [if_pos hserved, hopen, if_pos rfl]
    omega
  · rw [if_neg hserved]
    omega

omit [DatasetStream ω δ] in
/-- A wait that reports the signal to a run that drains is the last one that does. -/
theorem signalWaits_woken :
    ({ r with stats, agenda, draining := r.draining || (r.policy == .drainToEof && r.ready.shutdown) } :
        Relay ω ι δ).signalWaits + (if r.policy == .drainToEof && r.ready.shutdown then 1 else 0) ≤
      r.signalWaits := by
  unfold signalWaits
  simp only
  cases hpolicy : r.policy with
  | signalOnly => exact Nat.le_refl 1
  | drainToEof =>
    cases hfired : r.ready.shutdown with
    | false => simp
    | true =>
      -- the signal is not watched while the run drains
      have hwatched : r.watchesShutdown = true := (Bool.and_eq_true_iff.mp hfired).1
      unfold watchesShutdown at hwatched
      rw [hpolicy] at hwatched
      have hbefore : r.draining = false := by simpa using hwatched
      rw [hbefore]
      exact Nat.le_refl 1

end Wait

omit [DatasetStream ω δ] in
/-- **Every wait uses up one of the waits that are left.** -/
theorem waitsLeft_woken (idle : r.agenda = []) (some : r.ready.any = true)
    (goesOn : r.policy = .signalOnly → r.ready.shutdown = true → r.ready.anyDescriptor = true) :
    ({ r with
        stats := r.stats.countWait
        agenda := tasks r.ready
        draining := r.draining || (r.policy == .drainToEof && r.ready.shutdown) } : Relay ω ι δ).waitsLeft <
      r.waitsLeft := by
  have hinput := inputWaits_woken r.stats.countWait
    (r.draining || (r.policy == .drainToEof && r.ready.shutdown)) idle
  have houtput := outputWaits_woken r.stats.countWait
    (r.draining || (r.policy == .drainToEof && r.ready.shutdown)) idle
  have hstdout := houtput .stdout
  have hstderr := houtput .stderr
  have hsignal := signalWaits_woken (r := r) (tasks r.ready) r.stats.countWait
  -- whatever the wait has found ready has one wait less left
  have hready : (r.ready.input || r.ready.stdin) = true ∨ r.ready.stdout = true ∨ r.ready.stderr = true ∨
      (r.policy == .drainToEof && r.ready.shutdown) = true := by
    cases hany : r.ready.anyDescriptor with
    | true =>
      unfold Readiness.anyDescriptor at hany
      simp only [Bool.or_eq_true] at hany ⊢
      rcases hany with (hinput | hout) | herr
      · exact .inl hinput
      · exact .inr (.inl hout)
      · exact .inr (.inr (.inl herr))
    | false =>
      have hfired : r.ready.shutdown = true := by
        unfold Readiness.any at some
        rw [hany, Bool.false_or] at some
        exact some
      cases hpolicy : r.policy with
      | drainToEof => exact .inr (.inr (.inr hfired))
      | signalOnly => exact absurd (hany.symm.trans (goesOn hpolicy hfired)) nofun
  unfold waitsLeft
  rcases hready with h | h | h | h
  · rw [if_pos h] at hinput
    omega
  · rw [if_pos ((served_tasks _).1.mpr h)] at hstdout
    omega
  · rw [if_pos ((served_tasks _).2.mpr h)] at hstderr
    omega
  · rw [if_pos h] at hsignal
    omega

/-! ## Runs that wind down -/

/-- The signal was posted, and nobody is left who could keep a run that drains from its end. -/
structure WindingDown (r : Relay ω ι δ) : Prop where
  input : InputInv r
  ends : EndsInv r
  prompt : PromptInv r
  fed : Fed r
  laden : Laden r
  posted : r.plumbing.shutdown.posted = true
  unwritten : r.policy = .drainToEof → ∀ c, (r.plumbing.output c).hasWriter = false

/-- The relay holds no write end of an output. -/
theorem Turn.hasWriter (h : Turn r r') (c : OutputChannel) :
    (r'.plumbing.output c).hasWriter = (r.plumbing.output c).hasWriter := by
  cases h with
  | head _ _ head => rw [head.sides.1.output c]
  | deed _ _ deed =>
    have hpipe {c' : OutputChannel} {pipe : Pipe} (same : pipe.hasWriter = (r.plumbing.output c').hasWriter) :
        ((r.plumbing.setOutput c' pipe).output c).hasWriter = (r.plumbing.output c).hasWriter := by
      by_cases hc : c = c'
      · subst hc
        rw [Plumbing.output_setOutput, same]
      · rw [Plumbing.output_setOutput_ne hc]
    rcases deed.side with ⟨-, same⟩ | ⟨output, -⟩
    · rw [same.output c]
    · cases deed with
      | outputEnded read | outputRead read =>
        have hends := (Pipe.fetch_done (Pipe.read_done read).2).1
        exact hpipe hends.hasWriter
      | outputFailed | delivered | deliverFailed => rfl
      | sent offers | refused offers | broken offers | sendFailed offers => exact (offers.not_output output).elim
      | _ => cases output

/-- A chunk is sent only after a read has given one. -/
theorem Turn.laden (h : Turn r r') (orderly : OrderlyAgenda r) : Laden r' := by
  intro rest' next'
  cases h with
  | head _ idle head =>
    cases head with
    | drained | stopped => cases idle.symm.trans next'
    | woken =>
      have htasks : tasks r.ready = .sendChunk :: rest' := next'
      unfold tasks at htasks
      split at htasks <;> split at htasks <;> split at htasks <;> cases htasks
  | @deed task rest _ next deed =>
    have hother (hrest' : r'.agenda = rest) : r'.pending ≠ [] :=
      absurd (head_of_sublist (orderly.rest next) (hrest'.symm.trans next')) nofun
    cases deed with
    | refilled used read some => exact some
    | unblocked | alreadyClosed | sent | refused | inputClosed | outputEnded | delivered => exact hother rfl
    | _ => cases next'

theorem Turn.windingDown [LawfulReads ω ι] (h : Turn r r') (hw : WindingDown r) : WindingDown r' where
  input := h.inputInv hw.input
  ends := h.endsInv hw.ends
  prompt := h.promptInv hw.prompt
  fed := h.fed hw.input.orderly
  laden := h.laden hw.input.orderly
  posted := by rw [h.shutdown, hw.posted]
  unwritten policy c := by rw [h.hasWriter, hw.unwritten (h.settings.1.symm.trans policy)]

omit [DatasetStream ω δ] in
/-- **No wait of such a run blocks.** -/
theorem WindingDown.not_blocks (h : WindingDown r) : ¬ r.Blocks := by
  intro hblocks
  rcases unposted_of_still h.prompt.settled hblocks.descriptors.2 with hunposted | ⟨policy, draining⟩
  · cases h.posted.symm.trans hunposted
  · have hgone := h.unwritten policy
    have hshut (c : OutputChannel) : (r.plumbing.output c).readOpen = false := by
      cases hopen : (r.plumbing.output c).readOpen with
      | false => rfl
      | true =>
        have hwriter := (quiet_of_still hblocks.descriptors.1 hopen).2
        cases (hgone c).symm.trans hwriter
    have hdrained : (r.draining && r.outputsDrained) = true :=
      Bool.and_eq_true_iff.mpr ⟨draining, outputsDrained_iff.mpr hshut⟩
    cases hblocks.waits.undrained.symm.trans hdrained

/-- A step of such a run leaves fewer waits, or as many waits and less work. -/
theorem Turn.winds_down (h : Turn r r') (hw : WindingDown r) (going : r'.outcome = none) :
    r'.stats.iterations + r'.waitsLeft ≤ r.stats.iterations + r.waitsLeft ∧
      8 * r'.waitsLeft + r'.work < 8 * r.waitsLeft + r.work := by
  cases h with
  | head running idle head =>
    cases head with
    | drained | stopped => cases going
    | woken undrained some goesOn =>
      have hwaits := waitsLeft_woken idle some goesOn
      have hwork := work_tasks r.ready
      refine ⟨?_, ?_⟩
      · show r.stats.iterations + 1 + _ ≤ _
        omega
      · show 8 * _ + ((tasks r.ready).map taskWork).sum < _
        omega
  | deed running next deed =>
    have hwaits := deed.waitsLeft_le hw.input hw.laden next going
    have hwork := deed.work_lt next going
    rw [deed.iterations]
    omega

/-- The last wait of such a run is one of those that were left. -/
theorem Turn.iterations_of_ok (h : Turn r r') (ok : r'.outcome = some (.ok ())) :
    r'.stats.iterations ≤ r.stats.iterations + r.waitsLeft := by
  cases h with
  | head running idle head =>
    cases head with
    | drained => exact Nat.le_add_right _ _
    | stopped _ policy =>
      have hsignal : r.signalWaits = 1 := by
        unfold signalWaits
        rw [policy]
        rfl
      show r.stats.iterations + 1 ≤ _
      unfold waitsLeft
      omega
    | woken => cases running.symm.trans ok
  | deed running _ deed =>
    rw [deed.iterations]
    exact Nat.le_add_right _ _

/-- **A run that winds down ends well, within the waits that are left.** -/
theorem WindingDown.ends_well [LawfulReads ω ι] {idle : ι → ω → Prop} (law : PollLaw idle) {r : Relay ω ι δ}
    (h : WindingDown r) (running : r.outcome = none)
    (flawless : ∀ n, Flawless (r.run (List.replicate n .turn))) :
    ∃ n, (r.run (List.replicate n .turn)).outcome = some (.ok ()) ∧
      (r.run (List.replicate n .turn)).stats.iterations ≤ r.stats.iterations + r.waitsLeft ∧
      ∀ k < n, (r.run (List.replicate k .turn)).turn? ≠ none := by
  induction hm : 8 * r.waitsLeft + r.work using Nat.strongRecOn generalizing r with
  | ind m ih =>
    cases hturn : r.turn? with
    | none => exact absurd (blocks_of_stalled law h.prompt h.input h.ends h.fed running hturn) h.not_blocks
    | some r' =>
      have turn := turn_of_turn? hturn
      have hlater (n : Nat) : r.run (List.replicate (n + 1) .turn) = r'.run (List.replicate n .turn) := by
        rw [List.replicate_succ, run_cons, advance_turn hturn]
      have hfirst : r.turn? ≠ none := by rw [hturn]; exact Option.some_ne_none _
      cases houtcome : r'.outcome with
      | none =>
        obtain ⟨hwaits, hless⟩ := turn.winds_down h houtcome
        obtain ⟨n, hok, hcount, hgoes⟩ := ih _ (hm ▸ hless) (turn.windingDown h) houtcome
          (fun n => hlater n ▸ flawless (n + 1)) rfl
        refine ⟨n + 1, hlater n ▸ hok, ?_, fun k hk => ?_⟩
        · rw [hlater n]
          exact Nat.le_trans hcount hwaits
        · cases k with
          | zero => exact hfirst
          | succ k =>
            rw [hlater k]
            exact hgoes k (Nat.lt_of_succ_lt_succ hk)
      | some result =>
        cases result with
        | ok =>
          refine ⟨1, hlater 0 ▸ houtcome, ?_, fun k hk => ?_⟩
          · rw [hlater 0]
            exact turn.iterations_of_ok houtcome
          · cases Nat.lt_one_iff.mp hk
            exact hfirst
        | error e =>
          have hf : Flawless r' := by
            have hone := flawless 1
            rw [hlater 0] at hone
            exact hone
          exact absurd houtcome (turn.unfailed h.input h.ends hf e)

/-! ## The main statement -/

/-- **A run whose signal was posted comes to its end by itself.** From every head of the loop that a run can
reach with the signal posted, and for a run that drains with nobody left who can write to the outputs, the relay
ends well after a number of steps of its own, as long as no call to a dataset fails. None of its waits blocks,
and it waits at most once for each byte that fits into the child's input, once for each byte in the outputs,
and four more times. The input may have no end. -/
theorem ends_after_shutdown [DatasetStream FileSystem δ] {p : Plumbing} (hp : p.Unrelayed)
    (settled : p.shutdown.Settled) (machine : FileSystem) (input : Dataset) (outputs : OutputRoutes δ)
    (policy : StopPolicy) (bufferSize : Nat) (schedule : List (Event FileSystem)) :
    let r := (create p machine input outputs policy bufferSize).run schedule
    let after := fun n => r.run (List.replicate n .turn)
    r.outcome = none → r.agenda = [] → r.plumbing.shutdown.posted = true →
    (policy = .drainToEof → ∀ c, (r.plumbing.output c).hasWriter = false) →
    (∀ n, Flawless (after n)) →
    ∃ n, (after n).outcome = some (.ok ()) ∧
      (after n).stats.iterations ≤ r.stats.iterations + (r.plumbing.stdin.room +
        (r.plumbing.output .stdout).queue.size + (r.plumbing.output .stderr).queue.size + 4) ∧
      ∀ k < n, (after k).turn? ≠ none := by
  intro r after running loopHead posted unwritten flawless
  have hw : WindingDown r :=
    { input := inputInv_run hp.untaken machine input outputs policy bufferSize schedule
      ends := endsInv_run hp.shut machine input outputs policy bufferSize schedule
      prompt := promptInv_run settled machine input outputs policy bufferSize schedule
      fed := fun rest next => by cases loopHead.symm.trans next
      laden := fun rest next => by cases loopHead.symm.trans next
      posted := posted
      unwritten := fun hpolicy => unwritten ((settings_run _ schedule).1.symm.trans hpolicy) }
  obtain ⟨n, hok, hcount, hgoes⟩ := hw.ends_well Dataset.idle_law running flawless
  exact ⟨n, hok, Nat.le_trans hcount (Nat.add_le_add_left r.waitsLeft_le _), hgoes⟩

/-- A run that drains its outputs, and whose input has no end. -/
def windingRun : Relay FileSystem Dataset Rehearsal.MemoryDataset :=
  create .fresh { names := [], workingDirectory := [], nodes := #[.zero] }
    ⟨"SYSIN", some (.reader [] { node := 0, access := .read })⟩
    { stdout := { name := "STDOUT" }, stderr := { name := "STDERR" }, fallback := { name := "SYSOUT" } }
    .drainToEof 2

/-- The child writes three bytes and ends without reading its input. -/
def lastWords : List (Event FileSystem) :=
  [.turn, .outside (.emit .stdout [7, 8, 9]), .outside (.endOutput .stdout), .outside (.endOutput .stderr),
    .outside .endInput, .outside .post]

/-- The run ends after at most 65543 waits. -/
theorem ends_after_shutdown_windingRun :
    Plumbing.fresh.Unrelayed ∧ Plumbing.fresh.shutdown.Settled ∧
      (windingRun.run lastWords).plumbing.shutdown.posted = true ∧
      ∃ n, ((windingRun.run lastWords).run (List.replicate n .turn)).outcome = some (.ok ()) ∧
        ((windingRun.run lastWords).run (List.replicate n .turn)).stats.iterations ≤ 65543 := by
  have hsettled : Plumbing.fresh.shutdown.Settled := nofun
  have hposted : (windingRun.run lastWords).plumbing.shutdown.posted = true := by decide
  have hgone : ∀ c, ((windingRun.run lastWords).plumbing.output c).hasWriter = false := by
    intro c
    cases c <;> decide
  have hover : ((windingRun.run lastWords).run (List.replicate 16 .turn)).outcome ≠ none := by decide
  have hflawless : Flawless ((windingRun.run lastWords).run (List.replicate 16 .turn)) := by
    have hall : ((windingRun.run lastWords).run (List.replicate 16 .turn)).history.all RelayCall.succeeded = true := by
      decide
    exact fun call hmem => List.all_eq_true.mp hall call hmem
  obtain ⟨n, hok, hcount, -⟩ := ends_after_shutdown Plumbing.unrelayed_fresh hsettled windingRun.machine
    windingRun.input windingRun.outputs .drainToEof 2 lastWords (by decide) (by decide) hposted (fun _ => hgone)
    (flawless_turns hover hflawless)
  refine ⟨Plumbing.unrelayed_fresh, hsettled, hposted, n, hok, Nat.le_trans hcount ?_⟩
  decide

end BatchJob.Relay
