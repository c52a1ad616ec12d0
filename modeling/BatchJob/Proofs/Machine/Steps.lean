import BatchJob.Machine.Launcher

/-!
# What a step of a process does

Whatever program a process runs, be it a tool or a shell with a script, what one step of it does to the others is
limited (`World.Evolves`). Processes end and new ones start, and each new one gets a number that none had before. The
pipes of the job change only as parties that hold the ends of the child can change them. Both hold of every call that a
task can make (`World.evolves_call?`), and so of every step (`World.evolves_step?`).
-/

namespace BatchJob.Machine

variable {m m' m'' : Machine} {p : Process} {pid : Pid}

/-! ## Numbers of processes -/

/-- The numbers of the processes in the table. -/
def pids (m : Machine) : List Pid :=
  m.processes.map Process.pid

/-- The numbers that the next processes get. -/
def nextPids (m : Machine) (n : Nat) : List Pid :=
  (List.range n).map fun i => m.lastPid + Int32.ofNat (i + 1)

/-- Between two moments processes may have ended, and up to `limit` may have started, which have got the next
numbers. -/
def Evolves (limit : Nat) (m m' : Machine) : Prop :=
  ∃ started ≤ limit, m'.lastPid = m.lastPid + Int32.ofNat started ∧ m'.pids.Sublist (m.pids ++ m.nextPids started)

/-- Processes may have ended. -/
theorem Evolves.of_sublist (pids : m'.pids.Sublist m.pids) (last : m'.lastPid = m.lastPid) : m.Evolves 0 m' := by
  refine ⟨0, Nat.le_refl 0, ?_, ?_⟩
  · rw [last]
    exact (Int32.add_zero _).symm
  · rw [nextPids, List.range_zero, List.map_nil, List.append_nil]
    exact pids

theorem Evolves.of_processes (processes : m'.processes = m.processes) (last : m'.lastPid = m.lastPid) :
    m.Evolves 0 m' := by
  refine .of_sublist ?_ last
  rw [pids, processes]
  exact List.Sublist.refl _

theorem Evolves.refl (m : Machine) : m.Evolves 0 m :=
  .of_processes rfl rfl

/-- The numbers that come after the next ones. -/
theorem nextPids_add {n : Nat} (last : m'.lastPid = m.lastPid + Int32.ofNat n) (k : Nat) :
    m.nextPids (n + k) = m.nextPids n ++ m'.nextPids k := by
  unfold nextPids
  rw [List.range_add, List.map_append, List.map_map]
  congr 1
  refine List.map_congr_left fun i _ => ?_
  show m.lastPid + Int32.ofNat (n + i + 1) = m'.lastPid + Int32.ofNat (i + 1)
  rw [last, Int32.add_assoc, ← Int32.ofNat_add, Nat.add_assoc]

theorem Evolves.trans {n k : Nat} (first : m.Evolves n m') (second : m'.Evolves k m'') : m.Evolves (n + k) m'' := by
  obtain ⟨n, hn, hlast, hpids⟩ := first
  obtain ⟨k, hk, hlast', hpids'⟩ := second
  refine ⟨n + k, Nat.add_le_add hn hk, ?_, ?_⟩
  · rw [hlast', hlast, Int32.add_assoc, ← Int32.ofNat_add]
  · rw [nextPids_add hlast, ← List.append_assoc]
    exact hpids'.trans (hpids.append_right _)

/-- No more processes have started after the first moments. -/
theorem Evolves.goOn {n : Nat} (first : m.Evolves n m') (second : m'.Evolves 0 m'') : m.Evolves n m'' :=
  first.trans second

theorem Evolves.mono {n k : Nat} (h : m.Evolves n m') (le : n ≤ k) : m.Evolves k m' := by
  obtain ⟨started, hstarted, hrest⟩ := h
  exact ⟨started, Nat.le_trans hstarted le, hrest⟩

theorem pids_map (f : Process → Process) (keeps : ∀ p, (f p).pid = p.pid) :
    (m.processes.map f).map Process.pid = m.pids := by
  rw [List.map_map]
  exact List.map_congr_left fun p _ => keeps p

/-- Processes have only changed, and kept their numbers. -/
theorem Evolves.of_map (f : Process → Process) (keeps : ∀ p, (f p).pid = p.pid)
    (processes : m'.processes = m.processes.map f) (last : m'.lastPid = m.lastPid) : m.Evolves 0 m' := by
  have hsame : m'.pids = m.pids := by rw [pids, processes, pids_map f keeps]
  exact .of_sublist (hsame ▸ List.Sublist.refl _) last

theorem evolves_put (m : Machine) (p : Process) : m.Evolves 0 (m.put p) := by
  refine .of_map _ (fun q => ?_) rfl rfl
  by_cases hsame : q.pid = p.pid
  · rw [if_pos hsame, hsame]
  · rw [if_neg hsame]

theorem evolves_remove (m : Machine) (pid : Pid) : m.Evolves 0 (m.remove pid) :=
  .of_sublist (List.filter_sublist.map _) rfl

theorem evolves_add (m : Machine) {make : Pid → Process} (named : ∀ pid, (make pid).pid = pid) :
    m.Evolves 1 (m.add make).2 := by
  refine ⟨1, Nat.le_refl 1, rfl, ?_⟩
  show ((m.processes ++ [make (m.lastPid + 1)]).map Process.pid).Sublist (m.pids ++ [m.lastPid + 1])
  rw [List.map_append, List.map_singleton, named]
  exact List.Sublist.refl _

/-- The process that a launch adds for an image. -/
def newProcess (stdio : List (Nat × Descriptor)) (request : SpawnRequest) (image : Image) (pid : Pid) : Process where
  pid
  parent := supervisor
  group := if request.newGroup then pid else supervisor
  descriptors := stdio
  task := Programs.task image.program (image.arguments.headD "") (image.arguments.drop 1) (environmentOf request)

/-- A launch that comes to an image adds a process for it, and does nothing else. -/
theorem spawn_eq (fs : FileSystem) (stdio : List (Nat × Descriptor)) (request : SpawnRequest) (m : Machine) :
    (launcher stdio fs).spawn request m =
      match imageOf fs request with
      | .error e => (.error e, m)
      | .ok image => (.ok (m.lastPid + 1), (m.add (newProcess stdio request image)).2) := rfl

theorem evolves_spawn (fs : FileSystem) (stdio : List (Nat × Descriptor)) (request : SpawnRequest) (m : Machine) :
    m.Evolves 1 ((launcher stdio fs).spawn request m).2 := by
  rw [spawn_eq]
  split
  next => exact (Evolves.refl m).mono (Nat.zero_le 1)
  next => exact m.evolves_add fun _ => rfl

theorem evolves_signalGroup (m : Machine) (group : Pid) (signal : Signal) :
    m.Evolves 0 (m.signalGroup group signal).2 := by
  refine .of_map _ (fun p => ?_) rfl rfl
  by_cases hmember : p.group = group
  · rw [if_pos hmember]
    rfl
  · rw [if_neg hmember]

theorem evolves_signal (m : Machine) (target : Pid) (sent : Option Signal) : m.Evolves 0 (m.signal target sent).2 := by
  unfold signal
  split
  next => exact .refl m
  next =>
    split
    next => exact m.evolves_signalGroup _ _
    next =>
      split
      next => exact m.evolves_put _
      next => exact .refl m

namespace World

variable {w w' w'' : World}

/-- What a step of a process does to what it shares with others, where up to `limit` processes may start. -/
structure Evolves (limit : Nat) (w w' : World) : Prop where
  host : w.host.Evolves limit w'.host
  /-- The pipes change as whoever holds ends of the child can change them. -/
  acts : ∃ actions : List Plumbing.Action, w'.plumbing = actions.foldl Plumbing.perform w.plumbing

theorem Evolves.refl (w : World) : w.Evolves 0 w :=
  ⟨.refl w.host, [], rfl⟩

theorem Evolves.trans {n k : Nat} (first : w.Evolves n w') (second : w'.Evolves k w'') : w.Evolves (n + k) w'' := by
  obtain ⟨actions, hfirst⟩ := first.acts
  obtain ⟨more, hsecond⟩ := second.acts
  refine ⟨first.host.trans second.host, actions ++ more, ?_⟩
  rw [hsecond, hfirst, List.foldl_append]

/-- No more processes have started after the first moments. -/
theorem Evolves.goOn {n : Nat} (first : w.Evolves n w') (second : w'.Evolves 0 w'') : w.Evolves n w'' :=
  first.trans second

theorem Evolves.mono {n k : Nat} (h : w.Evolves n w') (le : n ≤ k) : w.Evolves k w' :=
  ⟨h.host.mono le, h.acts⟩

theorem Evolves.of_host {n : Nat} (host : w.host.Evolves n w'.host) (same : w'.plumbing = w.plumbing) :
    w.Evolves n w' :=
  ⟨host, [], same⟩

/-- Only the open files and the files themselves have changed. -/
theorem Evolves.of_files (processes : w'.host.processes = w.host.processes) (last : w'.host.lastPid = w.host.lastPid)
    (same : w'.plumbing = w.plumbing) : w.Evolves 0 w' :=
  .of_host (.of_processes processes last) same

theorem Evolves.of_action (host : w'.host = w.host) (action : Plumbing.Action)
    (acts : w'.plumbing = w.plumbing.perform action) : w.Evolves 0 w' := by
  refine ⟨?_, [action], acts⟩
  rw [host]
  exact .refl w.host

theorem evolves_put (w : World) (p : Process) : w.Evolves 0 (w.put p) :=
  .of_host (w.host.evolves_put p) rfl

/-! ## Ending and signals -/

theorem evolves_settleEntry (w : World) (number : Nat) : w.Evolves 0 (w.settleEntry number) := by
  unfold settleEntry
  split
  next => exact .refl w
  next =>
    split
    next => exact .refl w
    next => exact .of_files rfl rfl rfl

theorem evolves_settle (w : World) : w.Evolves 0 w.settle := by
  have hends : ∀ (ended : List (Descriptor × Plumbing.Action)) (w : World), w.Evolves 0 (ended.foldl (fun w next =>
      if w.host.isHeld next.1 then w else { w with plumbing := w.plumbing.perform next.2 }) w) := by
    intro ended
    induction ended with
    | nil => exact Evolves.refl
    | cons next ended ih =>
      intro w
      refine .goOn ?_ (ih _)
      show w.Evolves 0 (if w.host.isHeld next.1 then w else { w with plumbing := w.plumbing.perform next.2 })
      split
      next => exact .refl w
      next => exact .of_action rfl next.2 rfl
  have hentries : ∀ (numbers : List Nat) (w : World), w.Evolves 0 (numbers.foldl settleEntry w) := by
    intro numbers
    induction numbers with
    | nil => exact Evolves.refl
    | cons number numbers ih => exact fun w => (w.evolves_settleEntry number).goOn (ih _)
  exact (hends _ w).goOn (hentries _ _)

theorem pid_of_orphan? {parent : Pid} {p q : Process} (h : orphan? parent p = some q) : q.pid = p.pid := by
  unfold orphan? at h
  split at h
  next =>
    split at h
    next =>
      cases h
      rfl
    next => cases h
  next =>
    cases h
    rfl

theorem evolves_orphans (m : Machine) (parent : Pid) :
    m.Evolves 0 { m with processes := m.processes.filterMap (orphan? parent) } := by
  refine .of_sublist ?_ rfl
  show ((m.processes.filterMap (orphan? parent)).map Process.pid).Sublist (m.processes.map Process.pid)
  induction m.processes with
  | nil => exact .slnil
  | cons p rest ih =>
    rw [List.filterMap_cons]
    cases horphan : orphan? parent p with
    | none => exact ih.cons _
    | some q =>
      rw [List.map_cons, List.map_cons, pid_of_orphan? horphan]
      exact ih.cons_cons _

theorem evolves_finish (w : World) (p : Process) (status : ChildStatus) : w.Evolves 0 (w.finish p status) := by
  unfold finish
  extract_lets m₁ m₂ m₃ w₁
  have htable : w.host.Evolves 0 m₃ := by
    refine ((w.host.evolves_put _).goOn (evolves_orphans m₁ p.pid)).goOn ?_
    show m₂.Evolves 0 (if p.parent = orphanage then m₂.remove p.pid else m₂)
    split
    next => exact m₂.evolves_remove p.pid
    next => exact .refl m₂
  have hfinished : w.Evolves 0 { w with host := m₃ } := .of_host htable rfl
  have hsettled : w.Evolves 0 w₁ := hfinished.goOn (evolves_settle _)
  split
  next =>
    refine hsettled.goOn ⟨w₁.host.evolves_remove p.pid, [.post], rfl⟩
  next => exact hsettled

theorem evolves_deliver (w : World) (p : Process) (signal : Signal) : w.Evolves 0 (w.deliver p signal) := by
  unfold deliver
  extract_lets p
  split
  next => exact w.evolves_put _
  next => exact w.evolves_put _
  next => exact w.evolves_put _
  next => exact w.evolves_put _
  next => exact w.evolves_finish _ _
  next => exact w.evolves_put _

/-! ## Transfers and open files -/

theorem evolves_read (w : World) (n : Nat) (descriptor : Descriptor) : w.Evolves 0 (w.read n descriptor).2 := by
  unfold read
  split
  next =>
    extract_lets stdin
    split
    next => exact .refl w
    next => exact .of_action rfl (.take n) rfl
  next => exact .refl w
  next =>
    split
    next => exact .refl w
    next => exact .of_files rfl rfl rfl

theorem evolves_offer (w : World) (bytes : Bytes) (descriptor : Descriptor) :
    w.Evolves 0 (w.offer bytes descriptor).2 := by
  unfold offer
  split
  next => exact .refl w
  next channel =>
    extract_lets pipe
    split
    next => exact .refl w
    next =>
      split
      next => exact .refl w
      next => exact .of_action rfl (.emit channel bytes) rfl
  next =>
    split
    next => exact .refl w
    next => exact .of_files rfl rfl rfl

theorem evolves_reposition (w : World) (position : Nat → Nat) (descriptor : Descriptor) :
    w.Evolves 0 (w.reposition position descriptor) := by
  unfold reposition
  split
  next => exact .of_files rfl rfl rfl
  next => exact .refl w

theorem evolves_openAt {path : String} {manner : OpenManner} {mode : Nat} {descriptor : Descriptor}
    (h : w.openAt path manner mode = .ok (descriptor, w')) : w.Evolves 0 w' := by
  unfold openAt at h
  extract_lets whole opened at h
  clear_value opened
  split at h
  next => cases h
  next =>
    cases h
    exact .of_files rfl rfl rfl

theorem evolves_reopen {p : Process} {number : Nat} {manner : OpenManner} {descriptor : Descriptor}
    (h : w.reopen p number manner = .ok (descriptor, w')) : w.Evolves 0 w' := by
  unfold reopen at h
  split at h
  next => cases h
  next =>
    split at h
    next =>
      cases h
      exact .refl w
    next =>
      cases h
      exact .of_files rfl rfl rfl

theorem evolves_openFor {p : Process} {path : String} {manner : OpenManner} {descriptor : Descriptor}
    (h : w.openFor p path manner = .ok (descriptor, w')) : w.Evolves 0 w' := by
  unfold openFor at h
  split at h
  next => exact evolves_reopen h
  next => exact evolves_openAt h

/-! ## Calls -/

theorem Evolves.of_read {n : Nat} {descriptor : Descriptor} {result : Attempt Errno Bytes}
    (h : w.read n descriptor = (result, w')) : w.Evolves 0 w' := by
  rw [show w' = (w.read n descriptor).2 by rw [h]]
  exact w.evolves_read n descriptor

theorem Evolves.of_offer {bytes : Bytes} {descriptor : Descriptor} {result : Attempt Errno Nat}
    (h : w.offer bytes descriptor = (result, w')) : w.Evolves 0 w' := by
  rw [show w' = (w.offer bytes descriptor).2 by rw [h]]
  exact w.evolves_offer bytes descriptor

/-- **Every call that a task can make.** -/
theorem evolves_call? {isIdle : Bool} {p : Process} (h : w.call? isIdle p = some w') : w.Evolves 1 w' := by
  -- a process goes on with another task, or with other descriptors and signals, under its own number
  have hgoOn : ∀ {w₁ : World} {q : Process}, w.Evolves 0 w₁ → some (w₁.put q) = some w' → w.Evolves 1 w' := by
    intro w₁ q hbefore hput
    cases hput
    exact (hbefore.goOn (w₁.evolves_put q)).mono (Nat.zero_le 1)
  have hsettled : ∀ {w₁ : World} {q : Process}, w.Evolves 0 w₁ → (some (w₁.put q)).map settle = some w' →
      w.Evolves 1 w' := by
    intro w₁ q hbefore hput
    cases hput
    exact ((hbefore.goOn (w₁.evolves_put q)).goOn (evolves_settle _)).mono (Nat.zero_le 1)
  -- a child that has ended is taken out of the table when its status is asked for
  have hcollected : ∀ {pid : Pid} {q : Process}, some (World.put { w with host := w.host.remove pid } q) = some w' →
      w.Evolves 1 w' := by
    intro pid q hput
    have hremoved : w.Evolves 0 { w with host := w.host.remove pid } := .of_host (w.host.evolves_remove pid) rfl
    exact hgoOn hremoved hput
  unfold call? at h
  extract_lets goOn withDescriptor at h
  have hdescriptor : ∀ {number : Nat} {missing : Task} {use : Descriptor → Option World},
      withDescriptor number missing use = some w' → (∀ descriptor, use descriptor = some w' → w.Evolves 1 w') →
      w.Evolves 1 w' := by
    intro number missing use hcall huse
    simp only [withDescriptor] at hcall
    split at hcall
    next => exact hgoOn (.refl w) hcall
    next descriptor _ => exact huse descriptor hcall
  cases htask : p.task with
  | exit code =>
    rw [htask] at h
    cases h
    exact (w.evolves_finish p _).mono (Nat.zero_le 1)
  | flood | regard | takeNoted | look | measure | mask =>
    rw [htask] at h
    exact hgoOn (.refl w) h
  | convert | gather | readBytes =>
    rw [htask] at h
    refine hdescriptor h fun descriptor hcall => ?_
    simp only at hcall
    split at hcall
    case h_4 => cases hcall
    all_goals
      next hread => exact hgoOn (.of_read hread) hcall
  | emit number bytes next =>
    rw [htask] at h
    simp only at h
    split at h
    next => exact hgoOn (.refl w) h
    next =>
      refine hdescriptor h fun descriptor hcall => ?_
      split at hcall
      next hoffer => exact hgoOn (.of_offer hoffer) hcall
      next w₁ hoffer =>
        split at hcall
        next => exact hgoOn (.of_offer hoffer) hcall
        next =>
          cases hcall
          exact ((Evolves.of_offer hoffer).goOn (w₁.evolves_finish p _)).mono (Nat.zero_le 1)
      next hoffer => exact hgoOn (.of_offer hoffer) hcall
      next => cases hcall
  | pause duration next =>
    rw [htask] at h
    simp only at h
    split at h
    next => exact hgoOn (.refl w) h
    next =>
      split at h
      next => exact hgoOn (.refl w) h
      next => cases h
  | openAt number path manner next =>
    rw [htask] at h
    simp only at h
    split at h
    next => exact hgoOn (.refl w) h
    next hopen => exact hsettled (evolves_openFor hopen) h
  | duplicate source target next =>
    rw [htask] at h
    exact hdescriptor h fun descriptor hcall => hsettled (.refl w) hcall
  | close number next =>
    rw [htask] at h
    exact hsettled (.refl w) h
  | connect reader writer next =>
    rw [htask] at h
    have hconnected : w.Evolves 0 w.connect.2.2 := .of_files rfl rfl rfl
    exact hgoOn hconnected h
  | fork child next =>
    rw [htask] at h
    let make (pid : Pid) : Process :=
      { pid, parent := p.pid, group := p.group, descriptors := p.descriptors, task := child
        regards := p.inheritedRegards, directory := p.directory, mask := p.mask }
    have hforked : w.Evolves 1 { w with host := (w.host.add make).2 } :=
      .of_host (w.host.evolves_add fun _ => rfl) rfl
    cases h
    exact hforked.goOn (evolves_put _ _)
  | await pid next =>
    rw [htask] at h
    simp only at h
    split at h
    next => exact hgoOn (.refl w) h
    next =>
      split at h
      next => cases h
      next => exact hcollected h
  | awaitOrNotice pid next =>
    rw [htask] at h
    simp only at h
    split at h
    next => exact hgoOn (.refl w) h
    next =>
      split at h
      next => exact hcollected h
      next =>
        split at h
        next => exact hgoOn (.refl w) h
        next => cases h
  | poll pid next =>
    rw [htask] at h
    simp only at h
    split at h
    next => exact hgoOn (.refl w) h
    next =>
      split at h
      next => exact hcollected h
      next => exact hgoOn (.refl w) h
  | execute path arguments environment next =>
    rw [htask] at h
    simp only at h
    split at h
    next => exact hgoOn (.refl w) h
    next => exact hsettled (.refl w) h
  | send target signal next =>
    rw [htask] at h
    have hsent : w.Evolves 0 { w with host := (w.host.signal (if target = 0 then -p.group else target) signal).2 } :=
      .of_host (w.host.evolves_signal _ _) rfl
    exact hgoOn hsent h
  | enter path next =>
    rw [htask] at h
    simp only at h
    split at h
    next =>
      split at h
      next => exact hgoOn (.refl w) h
      next => exact hgoOn (.refl w) h
    next => exact hgoOn (.refl w) h
    next => exact hgoOn (.refl w) h
  | alter change next =>
    rw [htask] at h
    simp only at h
    split at h
    next => exact hgoOn (.refl w) h
    next files _ =>
      have haltered : w.Evolves 0 { w with files } := .of_files rfl rfl rfl
      exact hgoOn haltered h
  | rewind number n next | seek number position next =>
    rw [htask] at h
    simp only at h
    split at h
    next => exact hgoOn (w.evolves_reposition _ _) h
    next => exact hgoOn (.refl w) h
  | detach next =>
    rw [htask] at h
    simp only at h
    split at h
    next => exact hgoOn (.refl w) h
    next => exact hgoOn (.refl w) h

theorem evolves_stepOf? {isIdle : Bool} {p : Process} (h : w.stepOf? isIdle p = some w') : w.Evolves 1 w' := by
  unfold stepOf? at h
  extract_lets home at h
  split at h
  next signal _ =>
    cases h
    exact (w.evolves_deliver p signal).mono (Nat.zero_le 1)
  next =>
    split at h
    next =>
      obtain ⟨w₁, hcall, rfl⟩ := Option.map_eq_some_iff.mp h
      have hacted := evolves_call? hcall
      exact ⟨hacted.host, hacted.acts⟩
    next => cases h

/-- **Every step, whichever process takes it.** -/
theorem evolves_step? (h : w.step? = some w') : w.Evolves 1 w' := by
  unfold step? at h
  split at h
  next hbusy =>
    cases h
    obtain ⟨p, -, hstep⟩ := List.exists_of_findSome?_eq_some hbusy
    exact evolves_stepOf? hstep
  next =>
    obtain ⟨p, -, hstep⟩ := List.exists_of_findSome?_eq_some h
    exact evolves_stepOf? hstep

end World

end BatchJob.Machine
