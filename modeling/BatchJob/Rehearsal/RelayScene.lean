import BatchJob.Dataset
import BatchJob.Rehearsal.MemoryDataset
import BatchJob.Relay.Basic

/-!
# Rehearsing the relay

A run of the relay in which the other parties act on cue: a cue names a call to a dataset in memory by its
kind and number, and what is done when it is made. What a cue does during a read happens before the read
gives its bytes; what it does during a write or a close happens after it.
-/

namespace BatchJob.Rehearsal

/-- The input of a rehearsed run: a dataset in memory or one on the machine. -/
inductive SceneInput
  | memory (dataset : MemoryDataset)
  | dataset (dataset : Dataset)

namespace SceneInput

/-- The dataset in memory, if the input is one. -/
def memory? : SceneInput → Option MemoryDataset
  | memory d => some d
  | dataset _ => none

instance : DatasetStream FileSystem SceneInput where
  name
    | memory d => d.name
    | dataset d => d.name
  isOpen
    | memory d => d.isOpen
    | dataset d => d.isOpen
  read n s fs :=
    match s with
    | memory d => let (result, d) := d.read n; (result, memory d, fs)
    | dataset d => let (result, d, fs) := d.read n fs; (result, dataset d, fs)
  write bytes s fs :=
    match s with
    | memory d => let (result, d) := d.write bytes; (result, memory d, fs)
    | dataset d => let (result, d, fs) := d.write bytes fs; (result, dataset d, fs)
  close s fs :=
    match s with
    | memory d => let (result, d) := d.close; (result, memory d, fs)
    | dataset d => let (result, d, fs) := d.close fs; (result, dataset d, fs)
  poll s fs :=
    match s with
    | memory _ => none
    | dataset d => d.poll fs

end SceneInput

/-- A relay between datasets in memory. -/
abbrev SceneRelay := Relay FileSystem SceneInput MemoryDataset

/-- What another party does on cue. -/
inductive SceneAction
  | outside (action : Plumbing.Action)
  /-- Read all input that is there. -/
  | drainInput
  /-- Write bytes to the pipe that the input dataset reads. -/
  | feed (bytes : Bytes)
  /-- Close that pipe's write end. -/
  | endFeed
  deriving DecidableEq, Repr

/-- A kind of call to a dataset in memory. -/
inductive Occasion
  | read
  | write (destination : Destination)
  | close
  deriving DecidableEq, Repr

/-- What is done when the call of a kind with a number is made. -/
structure Cue where
  occasion : Occasion
  number : Nat
  actions : List SceneAction
  deriving DecidableEq, Repr

/-- A rehearsed run: the relay, the cues, and the open write end of the pipe behind the input. -/
structure Scene where
  relay : SceneRelay
  cues : List Cue
  feeder : Option OpenFile := none

namespace Scene

/-- Lets another party act. -/
def act (s : Scene) : SceneAction → Scene
  | .outside action => { s with relay := s.relay.advance (.outside action) }
  | .drainInput =>
    let all := s.relay.plumbing.stdin.queue.size
    { s with relay := s.relay.advance (.outside (.take all)) }
  | .feed bytes =>
    match s.feeder with
    | some file => { s with relay := s.relay.advance (.elsewhere fun fs => (fs.write file bytes).2.2) }
    | none => s
  | .endFeed =>
    match s.feeder with
    | some file => { s with relay := s.relay.advance (.elsewhere (·.close file)), feeder := none }
    | none => s

/-- Lets other parties act in turn. -/
def actAll (s : Scene) (actions : List SceneAction) : Scene :=
  actions.foldl act s

/-- Carries out every cue for a call, in order. -/
def onCall (s : Scene) (occasion : Occasion) (number : Nat) : Scene :=
  (s.cues.filter fun cue => cue.occasion = occasion ∧ cue.number = number).foldl
    (fun s cue => s.actAll cue.actions) s

/-- Carries out the cues of the read that the relay makes next, if it makes one. -/
def beforeTurn (s : Scene) : Scene :=
  match s.relay.agenda, s.relay.input.memory? with
  | .serveInput :: _, some d => if s.relay.pending.isEmpty then s.onCall .read (d.reads + 1) else s
  | _, _ => s

/-- Carries out the cues of the write or the close that the relay has made for a task. -/
def afterTurn (s : Scene) (task : RelayTask) : Scene :=
  match task, s.relay.history with
  | .deliver .., .write _ place _ (.ok ()) :: _ => s.onCall (.write place) (s.relay.outputs.get place).writes
  | .closeInput, .close _ :: _ =>
    match s.relay.input.memory? with
    | some d => s.onCall .close d.closes
    | none => s
  | _, _ => s

/-- Lets the relay take steps until it ends or has to wait. The fuel is the number of steps at most. -/
def play (fuel : Nat) (s : Scene) : Scene :=
  match fuel with
  | 0 => s
  | fuel + 1 =>
    let s := s.beforeTurn
    match s.relay.turn? with
    | none => s
    | some relay =>
      match s.relay.agenda with
      | task :: _ => play fuel ({ s with relay }.afterTurn task)
      | [] => play fuel { s with relay }

end Scene

end BatchJob.Rehearsal
