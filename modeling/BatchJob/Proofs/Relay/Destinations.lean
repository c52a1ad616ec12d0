import BatchJob.Proofs.Dataset.Writing
import BatchJob.Proofs.Relay.Failure

/-!
# What the destinations receive

Which destination a channel goes to is settled when a run starts, since a write neither opens nor closes a
dataset (`RoutesInv`). So a destination that takes one channel only has taken what was delivered on that
channel (`stored_eq_delivered`), and one that takes both has taken an interleaving of the two
(`stored_interleaves`).

What a destination has taken is in the node behind its dataset, as long as no call has failed and the node
belongs to that destination alone (`ContentInv`).
-/

namespace BatchJob

/-! ## Interleavings -/

/-- `Interleaving a b m`: the elements of `m` are those of `a` and of `b`, each in their order. -/
inductive Interleaving {α : Type} : List α → List α → List α → Prop
  | done : Interleaving [] [] []
  | first {x : α} {a b m : List α} (rest : Interleaving a b m) : Interleaving (x :: a) b (x :: m)
  | second {x : α} {a b m : List α} (rest : Interleaving a b m) : Interleaving a (x :: b) (x :: m)

namespace Interleaving

variable {α : Type} {a b m : List α}

/-- More elements of the first list may come before. -/
theorem append_first (h : Interleaving a b m) : ∀ front : List α, Interleaving (front ++ a) b (front ++ m)
  | [] => h
  | _ :: front => .first (h.append_first front)

/-- More elements of the second list may come before. -/
theorem append_second (h : Interleaving a b m) : ∀ front : List α, Interleaving a (front ++ b) (front ++ m)
  | [] => h
  | _ :: front => .second (h.append_second front)

end Interleaving

/-- A call takes the bytes of a channel to where the channel goes. -/
def RelayCall.RoutedBy (route : OutputChannel → Destination) : RelayCall → Prop
  | .write c place _ _ => place = route c
  | _ => True

namespace Relay

section Stored

variable {ω ι δ : Type} {r : Relay ω ι δ} {route : OutputChannel → Destination}

theorem stored_of_separate (separate : route .stdout ≠ route .stderr) (c : OutputChannel) {call : RelayCall}
    (routed : call.RoutedBy route) : call.stored (route c) = call.delivered c := by
  cases call with
  | read | close => rfl
  | write channel place chunk result =>
    cases result with
    | error e => rfl
    | ok =>
      cases routed
      show (if route channel = route c then chunk else []) = if channel = c then chunk else []
      by_cases hc : channel = c
      · subst hc
        rw [if_pos rfl, if_pos rfl]
      · rw [if_neg hc, if_neg]
        intro heq
        cases channel <;> cases c <;> first
          | exact hc rfl
          | exact separate heq
          | exact separate heq.symm

/-- **A destination of one channel has taken what was delivered on it.** -/
theorem stored_eq_delivered (routed : ∀ call ∈ r.history, call.RoutedBy route)
    (separate : route .stdout ≠ route .stderr) (c : OutputChannel) : r.stored (route c) = r.delivered c := by
  have hcalls : ∀ calls : List RelayCall, (∀ call ∈ calls, call.RoutedBy route) →
      calls.flatMap (RelayCall.stored (route c)) = calls.flatMap (RelayCall.delivered c) := by
    intro calls hrouted
    induction calls with
    | nil => rfl
    | cons call calls ih =>
      rw [List.flatMap_cons, List.flatMap_cons, stored_of_separate separate c (hrouted call List.mem_cons_self),
        ih fun call hmem => hrouted call (List.mem_cons_of_mem _ hmem)]
  exact hcalls _ fun call hmem => routed call (List.mem_reverse.mp hmem)

/-- **A destination of both channels has taken an interleaving of what was delivered on them.** -/
theorem stored_interleaves (routed : ∀ call ∈ r.history, call.RoutedBy route)
    (shared : route .stdout = route .stderr) :
    Interleaving (r.delivered .stdout) (r.delivered .stderr) (r.stored (route .stdout)) := by
  have hcalls : ∀ calls : List RelayCall, (∀ call ∈ calls, call.RoutedBy route) →
      Interleaving (calls.flatMap (RelayCall.delivered .stdout)) (calls.flatMap (RelayCall.delivered .stderr))
        (calls.flatMap (RelayCall.stored (route .stdout))) := by
    intro calls hrouted
    induction calls with
    | nil => exact .done
    | cons call calls ih =>
      have hrest := ih fun call hmem => hrouted call (List.mem_cons_of_mem _ hmem)
      have hcall := hrouted call List.mem_cons_self
      simp only [List.flatMap_cons]
      cases call with
      | read | close => exact hrest
      | write channel place chunk result =>
        cases result with
        | error e => exact hrest
        | ok =>
          cases hcall
          cases channel with
          | stdout =>
            have hstored : RelayCall.stored (route .stdout) (.write .stdout (route .stdout) chunk (.ok ())) = chunk :=
              if_pos rfl
            rw [hstored]
            exact hrest.append_first chunk
          | stderr =>
            have hstored : RelayCall.stored (route .stdout) (.write .stderr (route .stderr) chunk (.ok ())) = chunk :=
              if_pos shared.symm
            rw [hstored]
            exact hrest.append_second chunk
  exact hcalls _ fun call hmem => routed call (List.mem_reverse.mp hmem)

end Stored

/-! ## Where the channels go -/

section Routes

variable {r r' : Relay FileSystem Dataset Dataset} {start : OutputRoutes Dataset}

/-- The destinations are open as they were at the start, the calls went where the channels go, and nothing waits
in a buffer unless a call has failed. -/
structure RoutesInv (start : OutputRoutes Dataset) (r : Relay FileSystem Dataset Dataset) : Prop where
  isOpen : ∀ place, (r.outputs.get place).isOpen = (start.get place).isOpen
  routed : ∀ call ∈ r.history, call.RoutedBy fun c => start.sink FileSystem c.toChannel
  emptied : Flawless r → ∀ place, (r.outputs.get place).Emptied

theorem RoutesInv.sink (h : RoutesInv start r) (channel : Channel) :
    r.outputs.sink FileSystem channel = start.sink FileSystem channel :=
  OutputRoutes.sink_congr h.isOpen channel

/-- What makes no write keeps the routes. -/
theorem RoutesInv.frame (h : RoutesInv start r) (same : SameOutputs r r') : RoutesInv start r' := by
  refine ⟨?_, fun call hmem => ?_, fun hf => ?_⟩
  · rw [same.outputs]
    exact h.isOpen
  · rcases same.calls with hsame | ⟨last, hlast, hnew⟩
    · exact h.routed call (hsame ▸ hmem)
    · rw [hnew] at hmem
      rcases List.mem_cons.mp hmem with rfl | hold
      · cases call with
        | write => cases hlast
        | read | close => trivial
      · exact h.routed call hold
  · rw [same.outputs]
    refine h.emptied (hf.of_calls ?_)
    exact same.calls.imp_right fun ⟨call, _, hnew⟩ => ⟨call, hnew⟩

/-- A write keeps the routes. -/
theorem RoutesInv.written (h : RoutesInv start r) {c : OutputChannel} {place : Destination} {chunk : Bytes}
    {result : Except DatasetError Unit} {outputs : OutputRoutes Dataset} {machine : FileSystem}
    (sink : place = r.outputs.sink FileSystem c.toChannel)
    (write : r.outputs.writeTo place chunk r.machine = (result, outputs, machine))
    (outputs_eq : r'.outputs = outputs) (calls : r'.history = .write c place chunk result :: r.history) :
    RoutesInv start r' := by
  rcases hone : (r.outputs.get place).write chunk r.machine with ⟨result', dataset, machine'⟩
  have hwrite : (result', r.outputs.set place dataset, machine') = (result, outputs, machine) := by
    rw [← write]
    unfold OutputRoutes.writeTo
    simp only [DatasetStream.write, hone]
  cases hwrite
  refine ⟨fun other => ?_, fun call hmem => ?_, fun hf other => ?_⟩
  · rw [outputs_eq]
    by_cases hother : other = place
    · subst hother
      have hkeep := Dataset.write_isOpen (r.outputs.get other) chunk r.machine
      rw [hone] at hkeep
      rw [OutputRoutes.get_set, ← h.isOpen]
      exact hkeep
    · rw [OutputRoutes.get_set_ne hother, h.isOpen]
  · rw [calls] at hmem
    rcases List.mem_cons.mp hmem with rfl | hold
    · exact sink.trans (h.sink c.toChannel)
    · exact h.routed call hold
  · rw [outputs_eq]
    by_cases hother : other = place
    · subst hother
      have hok := hf (.write c other chunk result) (by rw [calls]; exact List.mem_cons_self)
      cases result with
      | error e => cases hok
      | ok =>
        rw [OutputRoutes.get_set]
        exact Dataset.write_emptied hone
    · rw [OutputRoutes.get_set_ne hother]
      exact h.emptied (hf.of_calls (.inr ⟨_, calls⟩)) other

theorem Turn.routesInv (h : Turn r r') (hi : RoutesInv start r) : RoutesInv start r' := by
  cases h with
  | head _ _ head => exact hi.frame head.sides.1
  | deed _ _ deed =>
    rcases deed.side with ⟨-, same⟩ | ⟨output, -⟩
    · exact hi.frame same
    · cases deed with
      | outputEnded | outputRead | outputFailed =>
        exact ⟨hi.isOpen, hi.routed, hi.emptied⟩
      | delivered sink write => exact hi.written sink write rfl rfl
      | deliverFailed sink write => exact hi.written sink write rfl rfl
      | sent offers | refused offers | broken offers | sendFailed offers => exact (offers.not_output output).elim
      | _ => cases output

/-- Nothing ever waits in the buffer of the input to be written. -/
theorem Turn.input_emptied (h : Turn r r') (hi : r.input.Emptied) : r'.input.Emptied := by
  cases h with
  | head _ _ head => cases head <;> exact hi
  | deed _ _ deed =>
    cases deed with
    | readFailed _ read | inputEnded _ read | refilled _ read =>
      have hkeep := Dataset.read_emptied hi r.bufferSize r.machine
      rw [show r.input.read r.bufferSize r.machine = _ from read] at hkeep
      exact hkeep
    | inputClosed close | closeFailed close =>
      have hkeep := r.input.close_emptied r.machine
      rw [show r.input.close r.machine = _ from close] at hkeep
      exact hkeep
    | _ => exact hi

end Routes

/-! ## What is in the node of a destination -/

section Content

variable {r r' : Relay FileSystem Dataset Dataset} {place : Destination} {id : NodeId} {before : Bytes}

/-- A destination is written behind all that is in its node, and no other dataset of the run uses the node. -/
structure Owns (place : Destination) (id : NodeId) (r : Relay FileSystem Dataset Dataset) : Prop where
  writes : (r.outputs.get place).Writes r.machine id
  others : ∀ other, other ≠ place → (r.outputs.get other).Avoids id
  input : r.input.Avoids id

/-- The node of a destination has received what the destination has taken. -/
structure ContentInv (place : Destination) (id : NodeId) (before : Bytes)
    (r : Relay FileSystem Dataset Dataset) : Prop extends Owns place id r where
  content : r.machine.bytesIn? id = some (before ++ r.stored place)

/-- What leaves the node and the destinations alone keeps what is in them. -/
theorem ContentInv.frame (h : ContentInv place id before r) (node : r'.machine.node id = r.machine.node id)
    (outputs : r'.outputs = r.outputs) (input : r'.input.Avoids id)
    (calls : r'.history = r.history ∨ ∃ call, call.stored place = [] ∧ r'.history = call :: r.history) :
    ContentInv place id before r' := by
  have hstored : r'.stored place = r.stored place := by
    unfold stored total
    rcases calls with hsame | ⟨call, hcall, hnew⟩
    · rw [hsame]
    · simp [hnew, hcall]
  refine ⟨⟨?_, ?_, input⟩, ?_⟩
  · obtain ⟨file, hhandle, hnode, hend⟩ := h.writes
    rw [outputs]
    exact ⟨file, hhandle, hnode, FileSystem.atEnd_of_node_eq hend (hnode ▸ node)⟩
  · rw [outputs]
    exact h.others
  · rw [FileSystem.bytesIn_of_node_eq node, hstored]
    exact h.content

/-- A write that succeeds adds to its own destination. -/
theorem ContentInv.written (h : ContentInv place id before r) {c : OutputChannel} {target : Destination}
    {chunk : Bytes} {outputs : OutputRoutes Dataset} {machine : FileSystem}
    (write : r.outputs.writeTo target chunk r.machine = (.ok (), outputs, machine))
    (machine_eq : r'.machine = machine) (outputs_eq : r'.outputs = outputs) (input_eq : r'.input = r.input)
    (calls : r'.history = .write c target chunk (.ok ()) :: r.history) : ContentInv place id before r' := by
  have hstored : r'.stored place = r.stored place ++ if target = place then chunk else [] := by
    simp only [stored, total, calls, List.reverse_cons, List.flatMap_append, List.flatMap_cons, List.flatMap_nil,
      List.append_nil, RelayCall.stored]
  rcases hone : (r.outputs.get target).write chunk r.machine with ⟨result', dataset, machine'⟩
  have hwrite : (result', r.outputs.set target dataset, machine') = (.ok (), outputs, machine) := by
    rw [← write]
    unfold OutputRoutes.writeTo
    simp only [DatasetStream.write, hone]
  cases hwrite
  by_cases htarget : target = place
  · subst htarget
    obtain ⟨hwrites, hcontent⟩ := Dataset.write_ok h.writes h.content hone
    refine ⟨⟨?_, fun other hother => ?_, ?_⟩, ?_⟩
    · rw [outputs_eq, machine_eq, OutputRoutes.get_set]
      exact hwrites
    · rw [outputs_eq, OutputRoutes.get_set_ne hother]
      exact h.others other hother
    · rw [input_eq]
      exact h.input
    · rw [machine_eq, hstored, if_pos rfl, ← List.append_assoc]
      exact hcontent
  · -- the write goes to another destination, which has nothing to do with the node
    obtain ⟨hnode, havoid⟩ := Dataset.write_frame (h.others target htarget) hone
    refine ⟨⟨?_, fun other hother => ?_, ?_⟩, ?_⟩
    · obtain ⟨file, hhandle, hid, hend⟩ := h.writes
      rw [outputs_eq, machine_eq, OutputRoutes.get_set_ne (Ne.symm htarget)]
      exact ⟨file, hhandle, hid, FileSystem.atEnd_of_node_eq hend (hid ▸ hnode)⟩
    · rw [outputs_eq]
      by_cases hsame : other = target
      · subst hsame
        rw [OutputRoutes.get_set]
        exact havoid
      · rw [OutputRoutes.get_set_ne hsame]
        exact h.others other hother
    · rw [input_eq]
      exact h.input
    · rw [machine_eq, FileSystem.bytesIn_of_node_eq hnode, hstored, if_neg htarget, List.append_nil]
      exact h.content

theorem Turn.contentInv (h : Turn r r') (hf : Flawless r') (hi : ContentInv place id before r) :
    ContentInv place id before r' := by
  cases h with
  | head _ _ head => cases head <;> exact hi.frame rfl rfl hi.input (.inl rfl)
  | deed _ _ deed =>
    cases deed with
    | unblocked | alreadyClosed | noInput | sent | refused | broken | sendFailed | outputEnded | outputRead
      | outputFailed => exact hi.frame rfl rfl hi.input (.inl rfl)
    | @readFailed e input machine used read =>
      obtain ⟨hnode, havoid⟩ := Dataset.read_frame hi.input read
      exact hi.frame hnode rfl havoid (.inr ⟨.read (.error e), rfl, rfl⟩)
    | @inputEnded input machine used read =>
      obtain ⟨hnode, havoid⟩ := Dataset.read_frame hi.input read
      exact hi.frame hnode rfl havoid (.inr ⟨.read (.ok []), rfl, rfl⟩)
    | @refilled bytes input machine used read =>
      obtain ⟨hnode, havoid⟩ := Dataset.read_frame hi.input read
      exact hi.frame hnode rfl havoid (.inr ⟨.read (.ok bytes), rfl, rfl⟩)
    | inputClosed close =>
      obtain ⟨hnode, havoid⟩ := Dataset.close_frame hi.input close
      exact hi.frame hnode rfl havoid (.inr ⟨.close (.ok ()), rfl, rfl⟩)
    | @closeFailed e input machine close =>
      obtain ⟨hnode, havoid⟩ := Dataset.close_frame hi.input close
      exact hi.frame hnode rfl havoid (.inr ⟨.close (.error e), rfl, rfl⟩)
    | delivered sink write => exact hi.written write rfl rfl rfl rfl
    | @deliverFailed c chunk target e _ _ _ _ =>
      -- a flawless run makes no such step
      have hok := hf (.write c target chunk (.error e)) List.mem_cons_self
      cases hok

end Content

end Relay

end BatchJob
