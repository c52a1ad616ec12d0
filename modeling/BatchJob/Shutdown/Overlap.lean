import BatchJob.Shutdown

/-!
# Posts and rearms that overlap

The shutdown signal is posted from any context, also by a handler that interrupts a rearm. So between the two steps
of a call there may be steps of any number of other calls. Here a call is named by how many calls had begun before
it.
-/

namespace BatchJob

/-- The signal, and the calls in progress that still have their second step before them. -/
structure Overlap where
  signal : ShutdownSignal := {}
  /-- How many calls have begun. -/
  begun : Nat := 0
  /-- The posts that found the flag down and have not written their byte yet. -/
  posts : List Nat := []
  /-- The rearms that have not drained the wake pipe yet. -/
  rearms : List Nat := []
  deriving DecidableEq

namespace Overlap

/-- One step of one call. -/
inductive Step
  /-- A post begins, and swaps the flag. It is over at once if the flag was up. -/
  | swap
  /-- A post writes its byte. -/
  | write (post : Nat)
  /-- A rearm begins, and clears the flag. -/
  | clear
  /-- A rearm drains the wake pipe. -/
  | drain (rearm : Nat)
  deriving DecidableEq, Repr

/-- The state after a step. The second step of a call that is not in progress is no step. -/
def advance (o : Overlap) : Step → Overlap
  | .swap =>
    let (wasPosted, signal) := o.signal.swapPosted
    { o with signal, begun := o.begun + 1, posts := if wasPosted then o.posts else o.begun :: o.posts }
  | .write post =>
    if post ∈ o.posts then { o with signal := o.signal.writeWake, posts := o.posts.erase post } else o
  | .clear => { o with signal := o.signal.clearPosted, begun := o.begun + 1, rearms := o.begun :: o.rearms }
  | .drain rearm =>
    if rearm ∈ o.rearms then { o with signal := o.signal.drainWake, rearms := o.rearms.erase rearm } else o

/-- The state after several steps. -/
def run (o : Overlap) (steps : List Step) : Overlap :=
  steps.foldl advance o

/-- No call is in progress. -/
def Quiet (o : Overlap) : Prop :=
  o.posts = [] ∧ o.rearms = []

/-- The step ends a call that began and ends while a call of the other kind is in progress. -/
def Nests (o : Overlap) : Step → Prop
  | .write post => ∃ rearm ∈ o.rearms, rearm < post
  | .drain rearm => ∃ post ∈ o.posts, post < rearm
  | _ => False

/-- No call takes both its steps between the two steps of a call of the other kind. -/
def Unnested (o : Overlap) : List Step → Prop
  | [] => True
  | step :: steps => ¬ o.Nests step ∧ (o.advance step).Unnested steps

end Overlap

end BatchJob
