import BatchJob.Proofs.Job.Child
import BatchJob.Proofs.Job.Preparation
import BatchJob.Proofs.Job.Turn
import BatchJob.Proofs.Relay.Destinations

/-!
# What a job delivers

A job without operator commands, from the start of its child to its return code. As long as no call to a
dataset fails, it goes through its phases in one order only (`Stands`): the child is started, the relay runs
until it ends well, and by then everything that was written has been delivered; the child is collected, by the
main sequence or by the handler before it; the datasets are closed, which takes no byte away; and the return
code is that of the child's status.

What could go wrong is the moment at which the child's last output and the shutdown signal race for the relay.
Until the signal is posted the relay goes on (`Talks`), and after the child's last write nothing is added to
what the relay delivers before it ends.

Main statement: `delivers`.
-/

namespace BatchJob.Job

open Relay

variable {σ : Type} {L : FileSystem → Launcher σ} {child : OneChild L} {start : OutputRoutes Dataset}

/-! ## The relay of a job -/

/-- Everything that was written to an output has been delivered. -/
def AllDelivered (r : Relay FileSystem Dataset Dataset) : Prop :=
  ∀ c, r.plumbing.wrote c = r.delivered c

/-- What is known about the relay of a job as long as no call has failed. -/
structure RelayInv (r : Relay FileSystem Dataset Dataset) : Prop where
  output : OutputInv r
  input : InputInv r
  ends : EndsInv r
  unfailed : ∀ e, r.outcome ≠ some (.error e)
  done : r.outcome = some (.ok ()) → AllDelivered r

theorem RelayInv.turn {r r' : Relay FileSystem Dataset Dataset} (h : RelayInv r) (turn : Relay.Turn r r')
    (hf : Flawless r') : RelayInv r' :=
  ⟨turn.outputInv h.output, turn.inputInv h.input, turn.endsInv h.ends, turn.unfailed h.input h.ends hf,
    fun ok c => (turn.delivered_of_ok h.output h.ends ok c).1⟩

/-- Other parties keep it, unless they write after the relay has ended. -/
theorem RelayInv.act {r : Relay FileSystem Dataset Dataset} (h : RelayInv r) {action : Plumbing.Action}
    (heard : (∀ c bytes, action ≠ .emit c bytes) ∨ r.outcome ≠ some (.ok ())) :
    RelayInv { r with plumbing := r.plumbing.perform action } := by
  refine ⟨h.output.outside action, h.input.outside action, h.ends.outside action, h.unfailed, fun ok c => ?_⟩
  rcases heard with hquiet | hgoing
  · show (r.plumbing.perform action).wrote c = r.delivered c
    rw [(r.plumbing.perform_effect action).wrote_eq hquiet]
    exact h.done ok c
  · exact absurd ok hgoing

theorem RelayInv.files {r : Relay FileSystem Dataset Dataset} (h : RelayInv r) (change : FileSystem → FileSystem) :
    RelayInv { r with machine := change r.machine } :=
  ⟨{ h.output with }, { h.input with }, { h.ends with }, h.unfailed, h.done⟩

/-- The datasets of a job, before they are closed. -/
structure DatasetsInv (start : OutputRoutes Dataset) (r : Relay FileSystem Dataset Dataset) : Prop where
  routes : RoutesInv start r
  input : r.input.Emptied

theorem DatasetsInv.frame {r r' : Relay FileSystem Dataset Dataset} (h : DatasetsInv start r)
    (outputs : r'.outputs = r.outputs) (input : r'.input = r.input) (history : r'.history = r.history) :
    DatasetsInv start r' := by
  refine ⟨⟨?_, ?_, fun hf => ?_⟩, ?_⟩
  · rw [outputs]
    exact h.routes.isOpen
  · rw [history]
    exact h.routes.routed
  · rw [outputs]
    exact h.routes.emptied (hf.of_calls (.inl history))
  · rw [input]
    exact h.input

/-! ## The phases of a job -/

/-- Where a job stands none of whose calls has failed. -/
def Stands (child : OneChild L) (start : OutputRoutes Dataset) (j : Job σ) : Prop :=
  match j.phase with
  | .spawning => RelayInv j.relay ∧ DatasetsInv start j.relay ∧ child.stage j.lifecycle.host = .absent
  | .relaying pid =>
    pid = child.pid ∧ RelayInv j.relay ∧ DatasetsInv start j.relay ∧
      child.Accounted j.lifecycle.host j.lifecycle.exits
  | .reaping pid =>
    pid = child.pid ∧ AllDelivered j.relay ∧ DatasetsInv start j.relay ∧
      child.Accounted j.lifecycle.host j.lifecycle.exits
  | .closing code => code = child.status.returnCode ∧ AllDelivered j.relay ∧ DatasetsInv start j.relay
  | .over result =>
    result = .ok child.status.returnCode ∧ AllDelivered j.relay ∧
      ∀ call ∈ j.relay.history, call.RoutedBy fun c => start.sink FileSystem c.toChannel
  | .ending .. | .awaiting .. => False

/-- The relay of a job has not ended yet, and it has not seen the shutdown signal. -/
structure Talks (child : OneChild L) (j : Job σ) : Prop where
  phase : j.phase = .spawning ∨ j.phase = .relaying child.pid
  unsignalled : Unsignalled j.relay

variable {j j' : Job σ}

/-- **A step of a job none of whose calls has failed leads to the next phase.** -/
theorem Stands.turn (h : Stands child start j) (turn : Turn (L j.relay.machine) j j') (hf : Flawless j'.relay) :
    Stands child start j' := by
  have hbefore : Flawless j.relay := hf.of_calls turn.calls
  unfold Stands at h
  cases turn with
  | started phase spawn =>
    rw [phase] at h
    obtain ⟨hrelay, hdata, habsent⟩ := h
    obtain ⟨s', hrunning, hspawn⟩ := OneChild.spawn_ok habsent j.relay.machine j.program j.account j.environment
    cases spawn.symm.trans hspawn
    exact ⟨rfl, hrelay, hdata, .of_running hrunning⟩
  | notStarted phase spawn =>
    -- a launcher with one child starts it
    rw [phase] at h
    obtain ⟨-, -, habsent⟩ := h
    obtain ⟨s', -, hspawn⟩ := OneChild.spawn_ok habsent j.relay.machine j.program j.account j.environment
    cases spawn.symm.trans hspawn
  | relayed phase turn =>
    rw [phase] at h
    obtain ⟨hpid, hrelay, hdata, haccounted⟩ := h
    unfold Stands
    rw [phase]
    exact ⟨hpid, hrelay.turn turn hf, ⟨turn.routesInv hdata.routes, turn.input_emptied hdata.input⟩, haccounted⟩
  | relayEnded phase outcome =>
    rw [phase] at h
    obtain ⟨hpid, hrelay, hdata, haccounted⟩ := h
    exact ⟨hpid, hrelay.done outcome, hdata.frame rfl rfl rfl, haccounted⟩
  | relayFailed phase outcome =>
    rw [phase] at h
    exact absurd outcome (h.2.1.unfailed _)
  | told phase | notTold phase | awaited phase =>
    rw [phase] at h
    exact h.elim
  | reaped phase returns reap =>
    rw [phase] at h
    obtain ⟨rfl, hdelivered, hdata, haccounted⟩ := h
    have hcode := haccounted.reap j.relay.machine returns
    rw [reap] at hcode
    cases hcode
    exact ⟨rfl, hdelivered, hdata⟩
  | notReaped phase returns reap =>
    rw [phase] at h
    obtain ⟨rfl, -, -, haccounted⟩ := h
    have hcode := haccounted.reap j.relay.machine returns
    rw [reap] at hcode
    cases hcode
  | inputNotClosed phase close =>
    rw [phase] at h
    have hok := (Dataset.close_ok h.2.2.input j.relay.machine).1
    rw [close] at hok
    cases hok
  | outputsNotClosed phase close closeAll =>
    rw [phase] at h
    obtain ⟨outputs, fs, hok, -⟩ := OutputRoutes.closeAll_ok (h.2.2.routes.emptied hbefore) _
    cases closeAll.symm.trans hok
  | finished phase close closeAll =>
    rw [phase] at h
    obtain ⟨rfl, hdelivered, hdata⟩ := h
    exact ⟨rfl, hdelivered, hdata.routes.routed⟩

/-- A relay that has not seen the signal goes on. -/
theorem Talks.turn (h : Talks child j) (turn : Turn (L j.relay.machine) j j') (after : Stands child start j') :
    Talks child j' := by
  unfold Stands at after
  cases turn with
  | started phase =>
    obtain ⟨rfl, -⟩ := after
    exact ⟨.inr rfl, h.unsignalled⟩
  | notStarted => cases after.1
  | relayed phase turn => exact ⟨h.phase, turn.unsignalled h.unsignalled⟩
  | relayEnded phase outcome => exact absurd outcome h.unsignalled.going
  | relayFailed => exact after.elim
  | told phase | notTold phase | awaited phase | reaped phase | notReaped phase | inputNotClosed phase
    | outputsNotClosed phase | finished phase =>
    rcases h.phase with hphase | hphase <;> cases phase.symm.trans hphase

/-! ## What happens around a job -/

/-- What leaves the datasets alone and keeps the account of the child keeps a job where it stands. -/
theorem Stands.frame (h : Stands child start j) (phase : j'.phase = j.phase)
    (outputs : j'.relay.outputs = j.relay.outputs) (input : j'.relay.input = j.relay.input)
    (history : j'.relay.history = j.relay.history)
    (relay : RelayInv j.relay → RelayInv j'.relay) (wrote : ∀ c, j'.relay.plumbing.wrote c = j.relay.plumbing.wrote c)
    (absent : child.stage j.lifecycle.host = .absent → child.stage j'.lifecycle.host = .absent)
    (accounted : child.Accounted j.lifecycle.host j.lifecycle.exits →
      child.Accounted j'.lifecycle.host j'.lifecycle.exits) : Stands child start j' := by
  have hdelivered (hall : AllDelivered j.relay) : AllDelivered j'.relay := by
    intro c
    rw [wrote, hall c]
    unfold Relay.delivered Relay.total
    rw [history]
  have hdata (hd : DatasetsInv start j.relay) : DatasetsInv start j'.relay := hd.frame outputs input history
  unfold Stands at h ⊢
  rw [phase]
  cases hphase : j.phase with
  | spawning =>
    rw [hphase] at h
    exact ⟨relay h.1, hdata h.2.1, absent h.2.2⟩
  | relaying =>
    rw [hphase] at h
    exact ⟨h.1, relay h.2.1, hdata h.2.2.1, accounted h.2.2.2⟩
  | reaping =>
    rw [hphase] at h
    exact ⟨h.1, hdelivered h.2.1, hdata h.2.2.1, accounted h.2.2.2⟩
  | closing =>
    rw [hphase] at h
    exact ⟨h.1, hdelivered h.2.1, hdata h.2.2⟩
  | ending | awaiting =>
    rw [hphase] at h
    exact h.elim
  | _ =>
    -- the job has ended
    rw [hphase] at h
    rw [history]
    exact ⟨h.1, hdelivered h.2.1, h.2.2⟩

/-- What the child and others do to the plumbing keeps a job where it stands; a write does so while the relay has
not seen the signal. -/
theorem Stands.act (h : Stands child start j) {action : Plumbing.Action}
    (heard : (∀ c bytes, action ≠ .emit c bytes) ∨ Talks child j) :
    Stands child start (j.advance L (child.event (.act action))) := by
  rcases heard with hquiet | htalks
  · have heffect := j.relay.plumbing.perform_effect action
    exact h.frame rfl rfl rfl rfl (·.act (.inl hquiet)) (heffect.wrote_eq hquiet) id id
  · -- bytes that come after the relay has ended would not be delivered, but it has not ended yet
    have hgoing := htalks.unsignalled.going
    unfold Stands at h
    rcases htalks.phase with hphase | hphase <;> rw [hphase] at h <;> unfold Stands
    · rw [show (j.advance L (child.event (.act action))).phase = .spawning from hphase]
      exact ⟨h.1.act (.inr hgoing), h.2.1.frame rfl rfl rfl, h.2.2⟩
    · rw [show (j.advance L (child.event (.act action))).phase = .relaying child.pid from hphase]
      exact ⟨h.1, h.2.1.act (.inr hgoing), h.2.2.1.frame rfl rfl rfl, h.2.2.2⟩

theorem relay_handle (j : Job σ) : (j.advance L (child.event .handle)).relay = j.relay := by
  obtain ⟨hplumbing, hfiles⟩ := child.handle_frame j.shared
  show { j.relay with plumbing := (child.handle j.shared).plumbing, machine := (child.handle j.shared).files } = _
  rw [hplumbing, hfiles]
  rfl

/-- Nothing that happens around a job moves it from where it stands. -/
theorem Stands.happens (h : Stands child start j) (happening : Happening child.stage)
    (heard : ∀ c bytes, happening = .act (.emit c bytes) → Talks child j)
    (hf : Flawless (j.advance L (child.event happening)).relay) :
    Stands child start (j.advance L (child.event happening)) := by
  cases happening with
  | act action =>
    cases action with
    | emit c bytes => exact h.act (.inr (heard c bytes rfl))
    | _ => exact h.act (.inl nofun)
  | pass change leads =>
    exact h.frame rfl rfl rfl rfl id (fun _ => rfl) (OneChild.stage_pass_of_absent (leads _)) (·.pass (leads _))
  | handle =>
    refine h.frame rfl ?_ ?_ ?_ ?_ ?_ (OneChild.stage_handle_of_absent (s := j.shared) ·) (·.handle)
    all_goals rw [relay_handle]
    · exact id
    · exact fun _ => rfl
  | files change => exact h.frame rfl rfl rfl rfl (·.files change) (fun _ => rfl) id id
  | turn =>
    rcases advance_turn L j with hstay | hturn
    · exact hstay.symm ▸ h
    · exact h.turn hturn hf

/-- As long as nobody posts the signal, the relay does not see it. -/
theorem Talks.happens (h : Talks child j) (happening : Happening child.stage) (unposted : happening ≠ .act .post)
    (after : Stands child start (j.advance L (child.event happening))) :
    Talks child (j.advance L (child.event happening)) := by
  cases happening with
  | act action => exact ⟨h.phase, h.unsignalled.outside fun hpost => unposted (by rw [hpost])⟩
  | pass | files => exact ⟨h.phase, { h.unsignalled with }⟩
  | handle =>
    refine ⟨h.phase, ?_⟩
    rw [relay_handle]
    exact h.unsignalled
  | turn =>
    rcases advance_turn L j with hstay | hturn
    · exact hstay.symm ▸ h
    · exact h.turn hturn after

/-! ## What is in the destinations -/

/-- What a destination has taken is in its node, also after the destination was closed. -/
structure Filled (place : Destination) (id : NodeId) (before : Bytes) (j : Job σ) : Prop where
  content : j.relay.machine.bytesIn? id = some (before ++ j.relay.stored place)
  own : j.result? = none → ContentInv place id before j.relay

section Content

variable {place : Destination} {id : NodeId} {before : Bytes}

/-- What leaves the datasets and the node alone keeps what is in the node. -/
theorem Filled.frame (h : Filled place id before j)
    (result : j'.result? = none → j.result? = none)
    (outputs : j'.relay.outputs = j.relay.outputs) (input : j'.relay.input = j.relay.input)
    (history : j'.relay.history = j.relay.history) (node : j'.relay.machine.node id = j.relay.machine.node id) :
    Filled place id before j' := by
  refine ⟨?_, fun hopen => ?_⟩
  · rw [FileSystem.bytesIn_of_node_eq node, h.content]
    unfold stored total
    rw [history]
  · have hown := h.own (result hopen)
    exact hown.frame node outputs (input ▸ hown.input) (.inl history)

theorem Filled.turn (h : Filled place id before j) (hs : Stands child start j) (turn : Turn (L j.relay.machine) j j')
    (hf : Flawless j'.relay) (after : Stands child start j') : Filled place id before j' := by
  have hbefore : Flawless j.relay := hf.of_calls turn.calls
  unfold Stands at hs after
  cases turn with
  | started phase | relayEnded phase | reaped phase =>
    exact h.frame (fun _ => by rw [result?, phase]) rfl rfl rfl rfl
  | notStarted => cases after.1
  | relayed phase turn =>
    have hown := turn.contentInv hf (h.own (by rw [result?, phase]))
    exact ⟨hown.content, fun _ => hown⟩
  | relayFailed => exact after.elim
  | told phase | notTold phase | awaited phase =>
    rw [phase] at hs
    exact hs.elim
  | notReaped | inputNotClosed | outputsNotClosed => cases after.1
  | finished phase close closeAll =>
    rw [phase] at hs
    have hinput := (Dataset.close_ok hs.2.2.input j.relay.machine).2 id
    rw [close] at hinput
    obtain ⟨outputs, fs, hok, houtputs⟩ := OutputRoutes.closeAll_ok (hs.2.2.routes.emptied hbefore) _
    cases closeAll.symm.trans hok
    refine ⟨?_, nofun⟩
    exact ((houtputs id).trans hinput).trans h.content

theorem Filled.happens (h : Filled place id before j) (hs : Stands child start j) (happening : Happening child.stage)
    (untouched : ∀ change, happening = .files change → ∀ fs, (change fs).node id = fs.node id)
    (hf : Flawless (j.advance L (child.event happening)).relay)
    (after : Stands child start (j.advance L (child.event happening))) :
    Filled place id before (j.advance L (child.event happening)) := by
  cases happening with
  | act | pass => exact h.frame (fun hopen => hopen) rfl rfl rfl rfl
  | handle => refine h.frame (fun hopen => hopen) ?_ ?_ ?_ ?_ <;> rw [relay_handle]
  | files change => exact h.frame (fun hopen => hopen) rfl rfl rfl (untouched change rfl _)
  | turn =>
    rcases advance_turn L j with hstay | hturn
    · exact hstay.symm ▸ h
    · exact h.turn hs hturn hf after

end Content

/-! ## Runs -/

theorem play_append (j : Job σ) (first second : List (Happening child.stage)) :
    child.play j (first ++ second) = child.play (child.play j first) second := by
  unfold OneChild.play
  rw [List.map_append, run_append]

/-- Where a job stands, and what is in the nodes that belong to its destinations. -/
structure DeliveryInv (child : OneChild L) (start : OutputRoutes Dataset) (own : Destination → NodeId → Bytes → Prop)
    (j : Job σ) : Prop where
  stands : Stands child start j
  filled : ∀ place id before, own place id before → Filled place id before j

section Runs

variable {own : Destination → NodeId → Bytes → Prop}

theorem DeliveryInv.happens (h : DeliveryInv child start own j) (happening : Happening child.stage)
    (heard : ∀ c bytes, happening = .act (.emit c bytes) → Talks child j)
    (untouched : ∀ change, happening = .files change → ∀ place id before, own place id before →
      ∀ fs, (change fs).node id = fs.node id)
    (hf : Flawless (j.advance L (child.event happening)).relay) :
    DeliveryInv child start own (j.advance L (child.event happening)) := by
  have hstands := h.stands.happens happening heard hf
  refine ⟨hstands, fun place id before howned => ?_⟩
  exact (h.filled place id before howned).happens h.stands happening
    (fun change hchange => untouched change hchange place id before howned) hf hstands

/-- What happens around a job takes back no call. -/
theorem flawless_of_happens (happening : Happening child.stage)
    (hf : Flawless (j.advance L (child.event happening)).relay) : Flawless j.relay := by
  cases happening with
  | act | pass | handle | files => exact hf
  | turn =>
    rcases advance_turn L j with hstay | hturn
    · exact hstay ▸ hf
    · exact hf.of_calls hturn.calls

/-- While the child has not written for the last time, and nobody has posted the signal, the relay goes on. -/
theorem deliveryInv_talk {talk : List (Happening child.stage)} (unposted : .act .post ∉ talk)
    (untouched : ∀ change, .files change ∈ talk → ∀ place id before, own place id before →
      ∀ fs, (change fs).node id = fs.node id)
    (h : DeliveryInv child start own j) (ht : Talks child j)
    (hf : Flawless (child.play j talk).relay) : DeliveryInv child start own (child.play j talk) := by
  -- no call is taken back, so a run that is flawless at its end has been flawless all along
  refine (run_keeps (P := fun j => Flawless j.relay → DeliveryInv child start own j ∧ Talks child j)
    (talk.map child.event) j ?_ (fun _ => ⟨h, ht⟩) hf).1
  intro e he j hj hf
  obtain ⟨happening, hmem, rfl⟩ := List.mem_map.mp he
  obtain ⟨hinv, htalks⟩ := hj (flawless_of_happens happening hf)
  have hinv' := hinv.happens happening (fun _ _ _ => htalks)
    (fun change hchange => untouched change (hchange ▸ hmem)) hf
  exact ⟨hinv', htalks.happens happening (fun hpost => unposted (hpost ▸ hmem)) hinv'.stands⟩

/-- After the child's last write nothing is lost either. -/
theorem deliveryInv_silence {silence : List (Happening child.stage)}
    (unwritten : ∀ c bytes, .act (.emit c bytes) ∉ silence)
    (untouched : ∀ change, .files change ∈ silence → ∀ place id before, own place id before →
      ∀ fs, (change fs).node id = fs.node id)
    (h : Flawless j.relay → DeliveryInv child start own j)
    (hf : Flawless (child.play j silence).relay) : DeliveryInv child start own (child.play j silence) := by
  refine run_keeps (P := fun j => Flawless j.relay → DeliveryInv child start own j)
    (silence.map child.event) j ?_ h hf
  intro e he j hj hf
  obtain ⟨happening, hmem, rfl⟩ := List.mem_map.mp he
  exact (hj (flawless_of_happens happening hf)).happens happening
    (fun c bytes hemit => absurd (hemit ▸ hmem) (unwritten c bytes))
    (fun change hchange => untouched change (hchange ▸ hmem)) hf

end Runs

/-! ## The main statement -/

/-- The books of a job that is about to start agree. -/
theorem deliveryInv_create {options : RunOptions} {config : Config} {vars : Variables} {account : Account}
    {standardOutput : OpenFile} {files : FileSystem} {host : σ} {j : Job σ} {desk : Desk}
    (created : create options config vars account standardOutput files host = (.ok j, desk))
    (absent : child.stage host = .absent) {own : Destination → NodeId → Bytes → Prop}
    (owned : ∀ place id before, own place id before →
      Owns place id j.relay ∧ j.relay.machine.bytesIn? id = some before) :
    DeliveryInv child j.relay.outputs own j ∧ Talks child j := by
  obtain ⟨hprepared, hphase, hlifecycle⟩ := create_ok created
  have hrelay := hprepared.created
  have hhistory : j.relay.history = [] := by rw [hrelay]; rfl
  have hinv : RelayInv j.relay := by
    rw [hrelay]
    exact ⟨outputInv_create Plumbing.unrelayed_fresh.queued .., inputInv_create Plumbing.unrelayed_fresh.untaken ..,
      endsInv_create Plumbing.unrelayed_fresh.shut .., nofun, nofun⟩
  have hdata : DatasetsInv j.relay.outputs j.relay := by
    refine ⟨⟨fun _ => rfl, ?_, fun _ place => (hprepared.outputs place).emptied⟩, hprepared.input.emptied⟩
    rw [hhistory]
    nofun
  refine ⟨⟨?_, fun place id before howned => ?_⟩, ⟨.inl hphase, ?_⟩⟩
  · unfold Stands
    rw [hphase, hlifecycle]
    exact ⟨hinv, hdata, absent⟩
  · obtain ⟨howns, hbefore⟩ := owned place id before howned
    have hstored : j.relay.stored place = [] := by
      unfold stored total
      rw [hhistory]
      rfl
    have hcontent : j.relay.machine.bytesIn? id = some (before ++ j.relay.stored place) := by
      rw [hbefore, hstored, List.append_nil]
    exact ⟨hcontent, fun _ => { howns with content := hcontent }⟩
  · rw [hrelay]
    exact ⟨rfl, rfl, nofun⟩

/-- **A job to which no operator gives commands, and in which no call to a dataset fails, ends with the return
code of its child's status and has delivered all that the child has written.** This holds whatever the child
reads, writes and closes and in whatever order, whenever it ends, and whether the main sequence or the handler
collects it, as long as the shutdown signal is posted only after the last write. A destination of one output
has taken exactly what was written to it, and one that takes both has taken an interleaving of the two. What a
destination has taken stands behind what was in its node before, unless others use the node; in a file that was
opened at a path, nothing was. -/
theorem delivers {L : FileSystem → Launcher σ} (child : OneChild L) {options : RunOptions} {config : Config}
    {vars : Variables} {account : Account} {standardOutput : OpenFile} {files : FileSystem} {host : σ} {j : Job σ}
    {desk : Desk} (created : create options config vars account standardOutput files host = (.ok j, desk))
    (absent : child.stage host = .absent) (talk silence : List (Happening child.stage))
    (unposted : .act .post ∉ talk) (unwritten : ∀ c bytes, .act (.emit c bytes) ∉ silence)
    (flawless : Flawless (child.play j (talk ++ silence)).relay) :
    let r := (child.play j (talk ++ silence)).relay
    let sink := fun c : OutputChannel => j.relay.outputs.sink FileSystem c.toChannel
    ∀ result, (child.play j (talk ++ silence)).result? = some result →
      result = .ok child.status.returnCode ∧
      (sink .stdout ≠ sink .stderr → ∀ c, r.stored (sink c) = r.plumbing.wrote c) ∧
      (sink .stdout = sink .stderr →
        Interleaving (r.plumbing.wrote .stdout) (r.plumbing.wrote .stderr) (r.stored (sink .stdout))) ∧
      ∀ place id before, Owns place id j.relay → j.relay.machine.bytesIn? id = some before →
        (∀ change, .files change ∈ talk ++ silence → ∀ fs, (change fs).node id = fs.node id) →
        r.machine.bytesIn? id = some (before ++ r.stored place) ∧
          (place ≠ .fallback → j.relay.machine.Holds id before → before = []) := by
  intro r sink result hresult
  -- the nodes whose content is followed through the run
  let own : Destination → NodeId → Bytes → Prop := fun place id before =>
    (Owns place id j.relay ∧ j.relay.machine.bytesIn? id = some before) ∧
      ∀ change, .files change ∈ talk ++ silence → ∀ fs, (change fs).node id = fs.node id
  obtain ⟨hstart, htalks⟩ : DeliveryInv child j.relay.outputs own j ∧ Talks child j :=
    deliveryInv_create created absent fun _ _ _ howned => howned.1
  have hend : DeliveryInv child j.relay.outputs own (child.play j (talk ++ silence)) := by
    rw [play_append] at flawless ⊢
    refine deliveryInv_silence unwritten ?_ (fun hf => deliveryInv_talk unposted ?_ hstart htalks hf) flawless
    · exact fun change hmem _ _ _ howned => howned.2 change (List.mem_append_right _ hmem)
    · exact fun change hmem _ _ _ howned => howned.2 change (List.mem_append_left _ hmem)
  have hstands := hend.stands
  unfold Stands at hstands
  unfold result? at hresult
  split at hresult
  next result' hphase =>
    cases hresult
    rw [hphase] at hstands
    obtain ⟨hcode, hdelivered, hrouted⟩ := hstands
    refine ⟨hcode, fun hseparate c => ?_, fun hshared => ?_, fun place id before howns hbefore huntouched => ?_⟩
    · rw [hdelivered c]
      exact stored_eq_delivered hrouted hseparate c
    · rw [hdelivered .stdout, hdelivered .stderr]
      exact stored_interleaves hrouted hshared
    · refine ⟨(hend.filled place id before ⟨⟨howns, hbefore⟩, huntouched⟩).content, fun hplace hholds => ?_⟩
      exact ((create_ok created).1.blank place hplace).holds_nil howns.writes hholds
  next => cases hresult

/-- A disk with one file, which has no name: the supervisor's standard output. -/
def bareDisk : FileSystem :=
  (FileSystem.empty.addNode (.file FileSystem.newFileMode .empty)).2

/-- A child that is killed. -/
def killedChild : OneChild fun _ => stagedLauncher 7 (.signaled .kill) :=
  .staged 7 (.signaled .kill) (by decide) trivial

/-- A job without datasets of its own, so that both outputs go to the supervisor's standard output. -/
def greeting : Job ChildStage where
  program := ["greet"]
  account := ⟨"IBMUSER", "/u/ibmuser", "/bin/sh"⟩
  environment := Environment.build ⟨"IBMUSER", "/u/ibmuser", "/bin/sh"⟩ none
  relay := .create .fresh bareDisk (.unopened "STDIN")
    { stdout := .unopened "STDOUT"
      stderr := .unopened "STDERR"
      fallback := .ofFile "SYSOUT" ⟨1, 0, .write⟩ .write } .drainToEof 4
  lifecycle := { host := .absent }

/-- The child writes to both outputs, before the relay starts and while it runs. -/
def greetingTalk : List (Happening killedChild.stage) :=
  [.turn, .act (.emit .stdout [104]), .act (.emit .stderr [33]), .turn, .turn, .turn, .act (.emit .stdout [105])] ++
    List.replicate 6 .turn

/-- The child is killed; the handler collects it and posts the signal, and the job goes on to its end. -/
def greetingSilence : List (Happening killedChild.stage) :=
  [.act (.endOutput .stdout), .act (.endOutput .stderr),
    .pass (fun stage => if stage = .running then .ended else stage) (by
      intro host
      cases host <;> first | exact .ends | exact .stays _),
    .handle, .act .post] ++ List.replicate 10 .turn

/-- The job at its end. -/
def greeted : Job ChildStage :=
  killedChild.play greeting (greetingTalk ++ greetingSilence)

/-- The job ends with the return code for a kill, and the supervisor's standard output holds an interleaving of
what the child wrote. -/
theorem delivers_greeting :
    create ⟨["greet"], true, none, .drainToEof, 4⟩ {} ⟨[]⟩ greeting.account ⟨1, 0, .write⟩ bareDisk .absent =
        (.ok greeting, { files := bareDisk }) ∧
      greeted.result? = some (.ok 137) ∧ Interleaving [104, 105] [33] (greeted.relay.stored .fallback) ∧
      greeted.relay.machine.bytesIn? 1 = some ([] ++ greeted.relay.stored .fallback) := by
  have hcreated : create ⟨["greet"], true, none, .drainToEof, 4⟩ {} ⟨[]⟩ greeting.account ⟨1, 0, .write⟩ bareDisk
      ChildStage.absent = (.ok greeting, { files := bareDisk }) := rfl
  have hover : greeted.result?.isSome = true := by decide +kernel
  obtain ⟨result, hresult⟩ := Option.isSome_iff_exists.mp hover
  have hflawless : Flawless greeted.relay := by
    have hall : greeted.relay.history.all RelayCall.succeeded = true := by decide +kernel
    exact fun call hmem => List.all_eq_true.mp hall call hmem
  obtain ⟨hcode, -, hshared, hcontent⟩ := delivers killedChild hcreated rfl greetingTalk greetingSilence
    (by simp [greetingTalk]) (by simp [greetingSilence]) hflawless result hresult
  have howns : Owns .fallback 1 greeting.relay := by
    refine ⟨⟨⟨1, 0, .write⟩, rfl, rfl, ?_⟩, fun other hother => ?_, nofun⟩
    · rintro mode content ⟨⟩
      rfl
    · cases other with
      | stdout | stderr => exact nofun
      | fallback => exact absurd rfl hother
  have hstdout : greeted.relay.plumbing.wrote .stdout = [104, 105] := by decide +kernel
  have hstderr : greeted.relay.plumbing.wrote .stderr = [33] := by decide +kernel
  refine ⟨hcreated, ?_, ?_, (hcontent .fallback 1 [] howns rfl (by simp [greetingTalk, greetingSilence])).1⟩
  · rw [hresult, hcode]
    rfl
  · rw [← hstdout, ← hstderr]
    exact hshared rfl

end BatchJob.Job
