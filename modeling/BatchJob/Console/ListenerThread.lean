import BatchJob.Console.Listener

/-!
# The listener beside the main sequence

The console listener as a machine that takes one step at a time, so that its run can be interleaved with
that of the main sequence. A STOP takes two steps: the child's process group is told to end, and then the
child is waited for. The second step is possible when the launcher's wait would return.
-/

namespace BatchJob.Console

/-- A listener under way. -/
structure ListenerThread where
  /-- The child that was told to end and is waited for. -/
  awaited : Option Pid := none
  /-- The commands that were served to their end, the last one first. -/
  served : List Command := []
  isOver : Bool := false
  deriving DecidableEq, Repr

namespace ListenerThread

variable {σ : Type}

/-- Notes a command as served to its end. -/
def done (t : ListenerThread) (command : Command) : ListenerThread :=
  { t with awaited := none, served := command :: t.served }

/-- The first step of a STOP. -/
def stop (L : Launcher σ) (t : ListenerThread) (s : Lifecycle σ) : ListenerThread × Lifecycle σ :=
  let s := s.logged .info stopReceived
  match s.child with
  | none => (t.done .stop, s.logged .warn Lifecycle.requestedTooEarly)
  | some pid =>
    match s.signalGroup L pid .term with
    | (.ok (), s) => ({ t with awaited := some pid }, s)
    | (.error e, s) => (t.done .stop, stopFailed s e)

/-- Takes a reply of the console. -/
def hear (L : Launcher σ) (t : ListenerThread) (s : Lifecycle σ) : Reply → ListenerThread × Lifecycle σ
  | .error e => ({ t with isOver := true }, takeLeave s e)
  | .ok .stop => t.stop L s
  | .ok command => (t.done command, serve L s command)

/-- The second step of a STOP: collects the child that was told to end. -/
def collect (L : Launcher σ) (t : ListenerThread) (s : Lifecycle σ) (pid : Pid) :
    ListenerThread × Lifecycle σ :=
  match s.collect L pid with
  | (.ok (), s) => (t.done .stop, s)
  | (.error e, s) => (t.done .stop, stopFailed s e)

end ListenerThread

end BatchJob.Console
