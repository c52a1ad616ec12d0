import BatchJob.Proofs.Dataset.Streams
import BatchJob.Proofs.Relay.Failure

/-!
# The sinks of a run are open

Destinations that are not open to be read, with a fallback that is open (`OutputRoutes.Writable`), have an open sink
for each channel, whichever of them are missing. A run neither opens nor closes a destination and changes none of its
nodes (`KeepsDatasets`), so each channel has the same open sink from the start of the run to its end.

So a run on such datasets fails only with an error of the system, on a read of its input or on a write to one of the
sinks (`Mishap`): it never uses a dataset that is not open, or against its direction, or an end of a pipe that is
closed, whatever others do to the pipes (`UsesProperly`).
-/

namespace BatchJob

/-- Whether a failure says that a dataset or a pipe was used while it was not open, or a dataset against its
direction. -/
def RelayError.isMisuse : RelayError → Bool
  | pipe (.closed _) => true
  | pipe (.read _) | pipe (.write _) => false
  | dataset error => error.isMisuse

/-! ## Sinks -/

namespace OutputRoutes

variable {start now : OutputRoutes Dataset}

/-- No destination is open to be read, and the fallback is open. -/
structure Writable (outputs : OutputRoutes Dataset) : Prop where
  faces : ∀ place, (outputs.get place).Faces .write
  fallback : outputs.fallback.isOpen = true

/-- The dataset that takes the bytes of a channel. -/
def sinkDataset (outputs : OutputRoutes Dataset) (channel : Channel) : Dataset :=
  outputs.get (outputs.sink FileSystem channel)

/-- Every channel has a sink that is open to be written. -/
theorem Writable.sink_stream (h : start.Writable) (channel : Channel) :
    ∃ node, (start.sinkDataset channel).stream? = some (.write, node) := by
  refine (h.faces _).stream_of_isOpen ?_
  unfold sink
  split
  next hopen => exact hopen
  next => exact h.fallback

/-- Every destination holds the same dataset. -/
def Same (start now : OutputRoutes Dataset) : Prop :=
  ∀ place, Dataset.SameStream (start.get place) (now.get place)

theorem Same.refl (outputs : OutputRoutes Dataset) : Same outputs outputs :=
  fun _ => .refl _

theorem Same.sink (h : Same start now) (channel : Channel) :
    now.sink FileSystem channel = start.sink FileSystem channel :=
  sink_congr (fun place => (h place).isOpen) channel

/-- A write to one destination leaves every dataset the same. -/
theorem Same.writeTo (h : Same start now) (place : Destination) (bytes : Bytes) (fs : FileSystem) :
    Same start (now.writeTo place bytes fs).2.1 := by
  intro other
  have hwrite := (now.get place).write_same bytes fs
  show Dataset.SameStream (start.get other) ((now.set place ((now.get place).write bytes fs).2.1).get other)
  by_cases hother : other = place
  · subst hother
    rw [get_set]
    exact (h other).trans hwrite
  · rw [get_set_ne hother]
    exact h other

/-- The sink of a channel is the one that it was at the start, on the same node, and open to be written. -/
structure KeepsSink (start now : OutputRoutes Dataset) (channel : Channel) : Prop where
  place : now.sink FileSystem channel = start.sink FileSystem channel
  dataset : Dataset.SameStream (start.sinkDataset channel) (now.sinkDataset channel)
  stream : ∃ node, (now.sinkDataset channel).stream? = some (.write, node)

theorem Same.keepsSink (h : Same start now) (writable : start.Writable) (channel : Channel) :
    KeepsSink start now channel := by
  have hdataset : Dataset.SameStream (start.sinkDataset channel) (now.sinkDataset channel) := by
    unfold sinkDataset
    rw [h.sink channel]
    exact h _
  obtain ⟨node, hstream⟩ := writable.sink_stream channel
  exact ⟨h.sink channel, hdataset, node, hdataset.stream.trans hstream⟩

end OutputRoutes

/-! ## Runs -/

/-- How a run can fail that began with these datasets. -/
inductive Mishap (input : Dataset) (outputs : OutputRoutes Dataset) : RelayError → Prop
  | reading (cause : IoError) : Mishap input outputs (.dataset (.read input.name cause))
  | writing (channel : OutputChannel) (cause : IoError) :
      Mishap input outputs (.dataset (.write (outputs.sinkDataset channel.toChannel).name cause))

theorem Mishap.isMisuse {input : Dataset} {outputs : OutputRoutes Dataset} {e : RelayError}
    (h : Mishap input outputs e) : e.isMisuse = false := by
  cases h <;> rfl

namespace Relay

variable {r r' : Relay FileSystem Dataset Dataset} {input : Dataset} {outputs : OutputRoutes Dataset}

/-- The datasets of a run are those that it began with; the input may have been closed. -/
structure KeepsDatasets (input : Dataset) (outputs : OutputRoutes Dataset)
    (r : Relay FileSystem Dataset Dataset) : Prop where
  name : r.input.name = input.name
  reads : r.input.Faces .read
  outputs : outputs.Same r.outputs

theorem KeepsDatasets.turn (h : KeepsDatasets input outputs r) (turn : Turn r r') : KeepsDatasets input outputs r' := by
  cases turn with
  | head _ _ head => cases head <;> exact { h with }
  | deed _ _ deed =>
    cases deed with
    | @readFailed _ input' machine _ read | @inputEnded input' machine _ read | @refilled _ input' machine _ read =>
      have hsame := r.input.read_same r.bufferSize r.machine
      rw [show r.input.read r.bufferSize r.machine = _ from read] at hsame
      exact ⟨hsame.name.trans h.name, h.reads.same hsame, h.outputs⟩
    | @inputClosed input' machine close | @closeFailed _ input' machine close =>
      -- what is closed is open in no direction
      have hclosed : input' = .unopened r.input.name := by
        rw [← Dataset.close_unopened r.input r.machine, show r.input.close r.machine = _ from close]
      subst hclosed
      exact ⟨h.name, nofun, h.outputs⟩
    | @delivered _ chunk place _ _ _ write | @deliverFailed _ chunk place _ _ _ _ write =>
      have hsame := h.outputs.writeTo place chunk r.machine
      rw [write] at hsame
      exact ⟨h.name, h.reads, hsame⟩
    | _ => exact { h with }

/-- **A step fails only with an error of the system**, on the input or on a sink. -/
theorem Turn.mishap (h : Turn r r') (hi : InputInv r) (he : EndsInv r) (hk : KeepsDatasets input outputs r)
    (writable : outputs.Writable) {e : RelayError} (failed : r'.outcome = some (.error e)) :
    Mishap input outputs e := by
  cases h with
  | head running _ head =>
    cases head with
    | drained | stopped => cases failed
    | woken => cases running.symm.trans failed
  | deed running next deed =>
    cases deed with
    | readFailed _ read =>
      cases failed
      obtain ⟨cause, rfl⟩ := Dataset.read_failed hk.reads (congrArg Prod.fst read)
      rw [hk.name]
      exact .reading cause
    | closeFailed close =>
      -- only a close that passes something on can fail
      exact absurd hk.reads (Dataset.close_failed (congrArg Prod.fst close)).1
    | @deliverFailed c chunk place _ _ _ sink write =>
      cases failed
      -- the channel still goes where it went at the start, and what is there is still open to be written
      have hplace : place = outputs.sink FileSystem c.toChannel := sink.trans (hk.outputs.sink c.toChannel)
      have hsame := hk.outputs place
      obtain ⟨node, hstream⟩ := writable.sink_stream c.toChannel
      unfold OutputRoutes.sinkDataset at hstream
      rw [← hplace] at hstream
      obtain ⟨cause, rfl⟩ := Dataset.write_failed (hsame.stream.trans hstream) (congrArg Prod.fst write)
      rw [hsame.name, hplace]
      exact .writing c cause
    | sendFailed offers write notFull notBroken =>
      -- a pipe that is full or that nobody reads is no failure, and the relay's own end is open
      rcases hi.not_sendFailed offers next write with hbroken | hfull
      · cases notBroken.symm.trans hbroken
      · cases notFull.symm.trans hfull
    | outputFailed read => exact absurd read (he.not_outputFailed next)
    | _ => cases running.symm.trans failed

/-- A run that uses its datasets and its pipes as they can be used. -/
structure UsesProperly (input : Dataset) (outputs : OutputRoutes Dataset)
    (r : Relay FileSystem Dataset Dataset) : Prop where
  books : InputInv r
  ends : EndsInv r
  kept : KeepsDatasets input outputs r
  failed : ∀ e, r.outcome = some (.error e) → Mishap input outputs e

theorem UsesProperly.turn (h : UsesProperly input outputs r) (writable : outputs.Writable) (turn : Turn r r') :
    UsesProperly input outputs r' :=
  ⟨turn.inputInv h.books, turn.endsInv h.ends, h.kept.turn turn, fun _ => turn.mishap h.books h.ends h.kept writable⟩

/-- What other parties do to the pipes and to the files makes no difference. -/
theorem UsesProperly.outside (h : UsesProperly input outputs r) (actions : List Plumbing.Action)
    (machine : FileSystem) :
    UsesProperly input outputs { r with plumbing := actions.foldl Plumbing.perform r.plumbing, machine } := by
  induction actions generalizing r with
  | nil => exact ⟨{ h.books with }, { h.ends with }, { h.kept with }, h.failed⟩
  | cons action actions ih =>
    exact ih ⟨h.books.outside action, h.ends.outside action, { h.kept with }, h.failed⟩

end Relay

end BatchJob
