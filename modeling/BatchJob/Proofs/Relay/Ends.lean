import BatchJob.Proofs.Relay.Sides

/-!
# The ends of the outputs

The relay closes its end of an output only at the end of the data, so that an output which it does not read
any more is sealed: it is empty and stays so. It serves an output only after a wait has found it ready, and
what was ready then is ready still, since other parties add bytes and drop writers only. So serving an output
does not fail (`not_outputFailed`).
-/

namespace BatchJob.Relay

variable {ω ι δ : Type} {r r' : Relay ω ι δ}

/-- An output that is being served does not wait to be served once more. -/
def ServesOnce (agenda : List RelayTask) : Prop :=
  ∀ c rest, (agenda = .serveOutput c :: rest ∨ ∃ chunk, agenda = .deliver c chunk :: rest) →
    .serveOutput c ∉ rest

theorem servesOnce_of_sublist {agenda : List RelayTask} (h : agenda.Sublist outputTasks) : ServesOnce agenda := by
  intro c rest next
  have hnodup : agenda.Nodup := h.nodup (by decide)
  rcases next with rfl | ⟨chunk, rfl⟩
  · exact (List.nodup_cons.mp hnodup).1
  · have hmem := h.subset List.mem_cons_self
    simp [outputTasks] at hmem

/-- What is known about the relay's ends of the outputs. -/
structure EndsInv (r : Relay ω ι δ) : Prop where
  orderly : OrderlyAgenda r
  roomy : 1 ≤ r.bufferSize
  sealed : ∀ c, (r.plumbing.output c).readOpen = false → (r.plumbing.output c).Sealed
  served : ∀ c, .serveOutput c ∈ r.agenda →
    (r.plumbing.output c).readOpen = true ∧ (r.plumbing.output c).isReadable = true
  once : ServesOnce r.agenda

/-- The outputs of freshly created runs, as far as nothing was relayed before. -/
theorem endsInv_create {p : Plumbing} (shut : ∀ c, (p.output c).readOpen = false → (p.output c).Sealed)
    (machine : ω) (input : ι) (outputs : OutputRoutes δ) (policy : StopPolicy) (bufferSize : Nat) :
    EndsInv (create p machine input outputs policy bufferSize) where
  orderly := List.nil_sublist _
  roomy := Nat.le_max_right _ _
  sealed := shut
  served := nofun
  once _ _ next := by rcases next with h | ⟨_, h⟩ <;> cases h

/-- What grows stays ready. -/
theorem isReadable_of_grows {before after : Plumbing} {c : OutputChannel} {more : Bytes}
    (grows : Plumbing.OutputGrows before after c more) (h : (before.output c).isReadable = true) :
    (after.output c).isReadable = true := by
  unfold Pipe.isReadable at h ⊢
  rw [Bool.or_eq_true] at h ⊢
  rcases h with hsome | hgone
  · refine .inl ?_
    cases hempty : (after.output c).queue.isEmpty with
    | false => rfl
    | true =>
      have hnil := (ByteQueue.isEmpty_iff _).mp hempty
      rw [grows.queue] at hnil
      rw [(ByteQueue.isEmpty_iff _).mpr (List.append_eq_nil_iff.mp hnil).1] at hsome
      cases hsome
  · refine .inr ?_
    rw [grows.hasWriter (by simpa using hgone)]
    rfl

theorem EndsInv.outside (h : EndsInv r) (action : Plumbing.Action) :
    EndsInv { r with plumbing := r.plumbing.perform action } := by
  refine ⟨h.orderly, h.roomy, fun c hshut => ?_, fun c hmem => ?_, h.once⟩
  · obtain ⟨more, hgrows⟩ := (r.plumbing.perform_effect action).grows c
    rw [hgrows.readOpen] at hshut
    exact (hgrows.sealed (h.sealed c hshut)).2
  · obtain ⟨more, hgrows⟩ := (r.plumbing.perform_effect action).grows c
    obtain ⟨hopen, hready⟩ := h.served c hmem
    exact ⟨hgrows.readOpen.trans hopen, isReadable_of_grows hgrows hready⟩

/-- Going on with what is left of the agenda keeps the ends as they are. -/
theorem EndsInv.frame (h : EndsInv r) (same : ∀ c, r'.plumbing.output c = r.plumbing.output c)
    (size : r'.bufferSize = r.bufferSize) (orderly : OrderlyAgenda r')
    (served : ∀ c, .serveOutput c ∈ r'.agenda → .serveOutput c ∈ r.agenda)
    (once : ServesOnce r'.agenda) : EndsInv r' := by
  refine ⟨orderly, size ▸ h.roomy, fun c => ?_, fun c hmem => ?_, once⟩
  · rw [same]
    exact h.sealed c
  · rw [same]
    exact h.served c (served c hmem)

section Output

variable {rest : List RelayTask} {task : RelayTask} {c : OutputChannel} {pipe : Pipe}

/-- A change of one end keeps the other one. -/
theorem EndsInv.setOutput (h : EndsInv r) (next : r.agenda = .serveOutput c :: rest) {agenda : List RelayTask}
    (sealed : pipe.readOpen = false → pipe.Sealed) (orderly : agenda.tail.Sublist outputTasks)
    (served : ∀ c', .serveOutput c' ∈ agenda → .serveOutput c' ∈ rest) (once : ServesOnce agenda) :
    EndsInv { r with plumbing := r.plumbing.setOutput c pipe, agenda } := by
  refine ⟨orderly, h.roomy, fun c' hshut => ?_, fun c' hmem => ?_, once⟩
  · by_cases hc : c' = c
    · subst hc
      simp only [Plumbing.output_setOutput] at hshut ⊢
      exact sealed hshut
    · simp only [Plumbing.output_setOutput_ne hc] at hshut ⊢
      exact h.sealed c' hshut
  · have hrest := served c' hmem
    by_cases hc : c' = c
    · subst hc
      exact absurd hrest (h.once c' rest (.inl next))
    · simp only [Plumbing.output_setOutput_ne hc]
      exact h.served c' (by rw [next]; exact List.mem_cons_of_mem _ hrest)

end Output

/-- **Serving an output does not fail.** -/
theorem EndsInv.not_outputFailed (h : EndsInv r) {c : OutputChannel} {rest : List RelayTask}
    (next : r.agenda = .serveOutput c :: rest) {e : PipeError} {pipe : Pipe} :
    (r.plumbing.output c).read r.bufferSize ≠ (.failed e, pipe) := by
  obtain ⟨hopen, hready⟩ := h.served c (by rw [next]; exact List.mem_cons_self)
  obtain ⟨bytes, pipe', hread⟩ := Pipe.read_of_isReadable hopen hready r.bufferSize
  rw [hread]
  nofun

/-! ## Every step keeps the ends -/

theorem servesOnce_tasks (ready : Readiness) : ServesOnce (tasks ready) := by
  cases hinput : ready.input || ready.stdin with
  | false => exact servesOnce_of_sublist (tasks_of_still hinput)
  | true =>
    intro c rest next
    unfold tasks at next
    rw [hinput, if_pos rfl] at next
    rcases next with h | ⟨_, h⟩ <;> cases h

theorem mem_tasks {ready : Readiness} {c : OutputChannel} (h : .serveOutput c ∈ tasks ready) :
    (match c with | .stdout => ready.stdout | .stderr => ready.stderr) = true := by
  unfold tasks at h
  revert h
  cases c <;> split <;> split <;> split <;> simp [*]

variable [DatasetStream ω ι] [DatasetStream ω δ]

omit [DatasetStream ω δ] in
/-- What a wait puts on the agenda, it has found ready. -/
theorem ready_of_served {c : OutputChannel} (h : .serveOutput c ∈ tasks r.ready) :
    (r.plumbing.output c).readOpen = true ∧ (r.plumbing.output c).isReadable = true := by
  have hready := mem_tasks h
  cases c <;> exact Bool.and_eq_true_iff.mp hready

/-- After an input step the agenda serves no output that was not to be served before. -/
theorem Deed.serves {task : RelayTask} {rest : List RelayTask} (h : Deed r rest task r')
    (input : worksOnInput task = true) (hrest : rest.Sublist outputTasks) :
    (∀ c, .serveOutput c ∈ r'.agenda → .serveOutput c ∈ rest) ∧ ServesOnce r'.agenda := by
  rcases h.agenda with ⟨hnil, -⟩ | ⟨-, hrest' | hsend | hclose | ⟨c, chunk, htask, -⟩⟩
  · rw [hnil]
    exact ⟨nofun, servesOnce_of_sublist (List.nil_sublist _)⟩
  · rw [hrest']
    exact ⟨fun _ h => h, servesOnce_of_sublist hrest⟩
  · rw [hsend]
    exact ⟨fun c hmem => (List.mem_cons.mp hmem).resolve_left nofun,
      fun _ _ next => by rcases next with h | ⟨_, h⟩ <;> cases h⟩
  · rw [hclose]
    exact ⟨fun c hmem => (List.mem_cons.mp hmem).resolve_left nofun,
      fun _ _ next => by rcases next with h | ⟨_, h⟩ <;> cases h⟩
  · rw [htask] at input
    cases input

theorem Turn.endsInv (h : Turn r r') (hi : EndsInv r) : EndsInv r' := by
  have horderly := h.orderly hi.orderly
  cases h with
  | head running idle head =>
    cases head with
    | drained | stopped => exact hi.frame (fun _ => rfl) rfl horderly (fun _ h => h) hi.once
    | woken => exact ⟨horderly, hi.roomy, hi.sealed, fun _ hmem => ready_of_served hmem, servesOnce_tasks _⟩
  | @deed task rest running next deed =>
    have hrest := hi.orderly.rest next
    have hold : ∀ c, .serveOutput c ∈ rest → .serveOutput c ∈ r.agenda := by
      intro c hmem
      rw [next]
      exact List.mem_cons_of_mem _ hmem
    rcases deed.side with ⟨input, same⟩ | ⟨output, -⟩
    · obtain ⟨hserved, honce⟩ := deed.serves input hrest
      exact hi.frame same.output same.bufferSize horderly (fun c hmem => hold c (hserved c hmem)) honce
    · cases deed with
      | outputEnded read =>
        -- no bytes came: the pipe is empty and has no writer, so closing this end seals it
        obtain ⟨-, hfetch⟩ := Pipe.read_done read
        obtain ⟨hends, hqueue, -⟩ := Pipe.fetch_done hfetch
        obtain ⟨hnil, hgone⟩ := Pipe.fetch_done_nil hi.roomy hfetch
        refine hi.setOutput next (fun _ => Pipe.sealed_close_read ?_ ?_) horderly (fun _ h => h)
          (servesOnce_of_sublist hrest)
        · rw [← hnil, ← hqueue]
          rfl
        · rw [hends.hasWriter, hgone]
      | @outputRead c bytes pipe read some =>
        obtain ⟨hopen, hfetch⟩ := Pipe.read_done read
        refine hi.setOutput next (fun hshut => ?_) horderly
          (fun c' hmem => (List.mem_cons.mp hmem).resolve_left nofun) ?_
        · rw [(Pipe.fetch_done hfetch).1] at hshut
          exact absurd (hopen.symm.trans hshut) nofun
        · rintro c' rest' (hnext | ⟨chunk, hnext⟩)
          · cases hnext
          · cases hnext
            exact hi.once c rest (.inl next)
      | outputFailed | deliverFailed =>
        exact hi.frame (fun _ => rfl) rfl horderly nofun (servesOnce_of_sublist (List.nil_sublist _))
      | delivered => exact hi.frame (fun _ => rfl) rfl horderly hold (servesOnce_of_sublist hrest)
      | sent offers | refused offers | broken offers | sendFailed offers => exact (offers.not_output output).elim
      | _ => cases output

/-- The ends are as described at every point of every run. -/
theorem endsInv_run {p : Plumbing} (shut : ∀ c, (p.output c).readOpen = false → (p.output c).Sealed)
    (machine : ω) (input : ι) (outputs : OutputRoutes δ) (policy : StopPolicy) (bufferSize : Nat)
    (schedule : List (Event ω)) : EndsInv ((create p machine input outputs policy bufferSize).run schedule) :=
  run_induction (fun _ action hi => hi.outside action) (fun _ _ hi => { hi with })
    (fun _ _ hi h => h.endsInv hi) schedule _ (endsInv_create shut machine input outputs policy bufferSize)

end BatchJob.Relay
