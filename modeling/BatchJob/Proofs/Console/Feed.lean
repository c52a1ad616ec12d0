import Mathlib
import BatchJob.Proofs.Console.Stream

/-!
# What a console answers

The replies of a console on a regular file are those to its lines. A console on a FIFO is fed by writers that come,
write and go in any order, between any calls to the console: a `Feed` is what has come of some such events, and at each
point of it the replies that were given are the first ones that the complete lines of the written bytes are due
(`Feed.Sound`).

Main statement: `replies_to_lines`.
-/

namespace BatchJob.Console

open FileSystem

variable {fs : FileSystem} {s : Source} {all : Bytes} {id : NodeId}

/-! ## Regular files -/

/-- What a call gives after `n` earlier ones, if nobody else touches the file system. -/
def Source.callAfter : Nat → Source → FileSystem → Attempt ConsoleError Command
  | 0, s, fs => (s.next fs).1
  | n + 1, s, fs => callAfter n (s.next fs).2.1 (s.next fs).2.2

/-- A call takes the first of the replies that are due, and leaves the others; without one the console is closed. -/
theorem next_file (h : s.Has fs .file all) :
    (s.next fs).1 = ofReply ((due true all).head?.getD (.error .closed)) ∧
      ∃ rest, (s.next fs).2.1.Has (s.next fs).2.2 .file rest ∧ due true rest = (due true all).tail := by
  have houtcome := next_outcome h
  generalize s.next fs = call at houtcome ⊢
  cases houtcome with
  | @reply reply rest s' fs' hleft hgives =>
    have hdue : due true all = [reply] ++ due true rest := hgives.due_eq
    rw [hdue]
    exact ⟨rfl, rest, hleft, rfl⟩
  | @pause rest s' fs' hleft hgives hnone =>
    have hdue : due true all = [] ++ due true rest := hgives.due_eq
    have hrest : due true rest = [] := hnone
    rw [hdue, hrest]
    exact ⟨rfl, rest, hleft, hrest⟩

/-- The calls to a console on a regular file give the replies that are due, and then find it closed for good. -/
theorem callAfter_eq (h : s.Has fs .file all) (n : Nat) :
    s.callAfter n fs = ofReply ((due true all)[n]?.getD (.error .closed)) := by
  induction n generalizing s fs all with
  | zero =>
    rw [← List.head?_eq_getElem?]
    exact (next_file h).1
  | succ n ih =>
    obtain ⟨-, rest, hleft, hdue⟩ := next_file h
    show Source.callAfter n (s.next fs).2.1 (s.next fs).2.2 = _
    rw [ih hleft, hdue, List.getElem?_tail]

/-! ## FIFOs -/

/-- A console on a FIFO and those who write to it. -/
structure Feed where
  source : Source
  fs : FileSystem
  /-- The handles that others have open for writing. -/
  writers : List OpenFile := []
  /-- All bytes that the FIFO took. -/
  fed : Bytes
  /-- All replies that the console gave. -/
  replies : List Reply := []

/-- What happens to a console on a FIFO. -/
inductive Feed.Event
  /-- A writer opens the FIFO. -/
  | connect
  /-- A writer offers bytes, of which the FIFO takes what there is room for. -/
  | write (writer : Nat) (bytes : Bytes)
  /-- A writer closes its handle. -/
  | disconnect (writer : Nat)
  /-- The console is called. A call that has to wait gives no reply, and is made again some time later. -/
  | next

/-- The reply of a call that returned. -/
def reply? : Attempt ConsoleError Command → Option Reply
  | .done command => some (.ok command)
  | .failed e => some (.error e)
  | .blocked => none

@[simp] theorem reply?_ofReply (reply : Reply) : reply? (ofReply reply) = some reply := by
  cases reply <;> rfl

namespace Feed

/-- One more writer. -/
def connect (id : NodeId) (f : Feed) : Feed :=
  { f with
    fs := (f.fs.openNode id .write).2
    writers := (f.fs.openNode id .write).1 :: f.writers }

/-- A write, of which the writer is told how much was taken. -/
def write (f : Feed) (writer : Nat) (bytes : Bytes) : Feed :=
  match f.writers[writer]? with
  | none => f
  | some file =>
    let (result, file, fs) := f.fs.write file bytes
    { f with fs, writers := f.writers.set writer file, fed := f.fed ++ bytes.take result.taken }

/-- One writer less. -/
def disconnect (f : Feed) (writer : Nat) : Feed :=
  match f.writers[writer]? with
  | none => f
  | some file => { f with fs := f.fs.close file, writers := f.writers.eraseIdx writer }

/-- A call to the console. -/
def next (f : Feed) : Feed :=
  let (result, source, fs) := f.source.next f.fs
  { f with source, fs, replies := f.replies ++ (reply? result).toList }

/-- What an event comes to. -/
def step (id : NodeId) (f : Feed) : Event → Feed
  | .connect => f.connect id
  | .write writer bytes => f.write writer bytes
  | .disconnect writer => f.disconnect writer
  | .next => f.next

/-- What some events come to, one after the other. -/
def run (id : NodeId) (f : Feed) (events : List Event) : Feed :=
  events.foldl (step id) f

/-- The replies that were given are the first ones that are due for the bytes that were taken, and those that are due
for what the console has left are the others. -/
structure Sound (id : NodeId) (f : Feed) : Prop where
  writers : ∀ file ∈ f.writers, file.node = id ∧ file.access = .write
  left : ∃ rest, f.source.Has f.fs (.fifo id f.writers.length) rest ∧ Gives false f.fed rest f.replies

end Feed

/-- What others add to a FIFO is added to what the console has left. -/
theorem Source.Has.fed {writers writers' : Nat} {fs' : FileSystem} {bytes : Bytes}
    (h : s.Has fs (.fifo id writers) all)
    (change : ∀ {queue}, fs.Carries id (writers + 1) queue → fs'.Carries id (writers' + 1) (queue ++ bytes)) :
    s.Has fs' (.fifo id writers') (all ++ bytes) := by
  obtain ⟨queue, hstock, rfl⟩ := h
  cases hstock with
  | fifo hid hcarries hreadable =>
    exact ⟨queue ++ bytes, .fifo hid (change hcarries) hreadable, (List.append_assoc _ _ _).symm⟩

namespace Feed

variable {f : Feed}

theorem Sound.connect (h : f.Sound id) : (f.connect id).Sound id := by
  obtain ⟨rest, hleft, hgives⟩ := h.left
  refine ⟨?_, rest, ?_, hgives⟩
  · intro file hfile
    rcases List.mem_cons.mp hfile with rfl | hmem
    · rw [openNode_file]
      exact ⟨rfl, rfl⟩
    · exact h.writers file hmem
  · rw [← List.append_nil rest]
    refine hleft.fed fun hcarries => ?_
    rw [List.append_nil]
    exact hcarries.openNode nofun

theorem Sound.write (h : f.Sound id) (writer : Nat) (bytes : Bytes) : (f.write writer bytes).Sound id := by
  unfold Feed.write
  cases hfile : f.writers[writer]? with
  | none => exact h
  | some file =>
    obtain ⟨rest, hleft, hgives⟩ := h.left
    obtain ⟨rfl, haccess⟩ := h.writers file (List.mem_of_getElem? hfile)
    have hwritable : file.access ≠ .read := by
      rw [haccess]
      nofun
    refine ⟨?_, rest ++ bytes.take (f.fs.write file bytes).1.taken, ?_, hgives.append _⟩
    · intro other hother
      rcases List.mem_or_eq_of_mem_set hother with hmem | rfl
      · exact h.writers other hmem
      · have hsame := (f.fs.write_frame file bytes).1
        exact ⟨hsame.node, hsame.access.trans haccess⟩
    · simp only [List.length_set]
      exact hleft.fed fun hcarries => (hcarries.write hwritable bytes).2

theorem Sound.disconnect (h : f.Sound id) (writer : Nat) : (f.disconnect writer).Sound id := by
  unfold Feed.disconnect
  cases hfile : f.writers[writer]? with
  | none => exact h
  | some file =>
    obtain ⟨rest, hleft, hgives⟩ := h.left
    obtain ⟨rfl, -⟩ := h.writers file (List.mem_of_getElem? hfile)
    refine ⟨fun other hother => h.writers other (List.mem_of_mem_eraseIdx hother), rest, ?_, hgives⟩
    have hlength : (f.writers.eraseIdx writer).length + 1 = f.writers.length := by
      obtain ⟨hlt, -⟩ := List.getElem?_eq_some_iff.mp hfile
      rw [List.length_eraseIdx_of_lt hlt]
      omega
    rw [← List.append_nil rest]
    refine hleft.fed fun hcarries => ?_
    rw [List.append_nil, hlength]
    exact hcarries.close

/-- A call gives the next reply, if one is due. -/
theorem Sound.next (h : f.Sound id) :
    f.next.Sound id ∧ f.next.fed = f.fed ∧
      ((∃ reply, f.next.replies = f.replies ++ [reply]) ∨ f.next.replies = f.replies ∧ due false f.fed = f.replies) := by
  obtain ⟨rest, hleft, hgives⟩ := h.left
  have houtcome := next_outcome hleft
  unfold Feed.next
  generalize f.source.next f.fs = call at houtcome
  cases houtcome with
  | @reply reply rest' s' fs' hleft' hgives' =>
    have hreplies : f.replies ++ (reply? (ofReply reply)).toList = f.replies ++ [reply] := by
      rw [reply?_ofReply]
      rfl
    refine ⟨⟨h.writers, rest', hleft', ?_⟩, rfl, .inl ⟨reply, hreplies⟩⟩
    simp only [hreplies]
    exact hgives.trans hgives'
  | @pause rest' s' fs' hleft' hgives' hnone =>
    -- a call that waits may have passed over blank lines
    have hall : Gives false f.fed rest' (f.replies ++ []) := hgives.trans hgives'
    refine ⟨⟨h.writers, rest', hleft', hall⟩, rfl, .inr ⟨List.append_nil _, ?_⟩⟩
    rw [hall.due_eq, show due false rest' = [] from hnone, List.append_nil, List.append_nil]

/-- Every event preserves that the replies are sound. -/
theorem Sound.step (h : f.Sound id) (event : Event) : (f.step id event).Sound id := by
  cases event with
  | connect => exact h.connect
  | write writer bytes => exact h.write writer bytes
  | disconnect writer => exact h.disconnect writer
  | next => exact h.next.1

theorem Sound.run (h : f.Sound id) (events : List Event) : (f.run id events).Sound id := by
  induction events generalizing f with
  | nil => exact h
  | cons event events ih => exact ih (h.step event)

/-- The replies that were given are a first part of those that are due. -/
theorem Sound.replies_eq (h : f.Sound id) : f.replies = (due false f.fed).take f.replies.length := by
  obtain ⟨rest, -, hgives⟩ := h.left
  rw [hgives.due_eq, List.take_left]

/-- Calls give the replies that are due one after the other, as far as there are any. -/
theorem Sound.calls (h : f.Sound id) (n : Nat) :
    (f.run id (List.replicate n .next)).replies = (due false f.fed).take (f.replies.length + n) := by
  induction n generalizing f with
  | zero => exact h.replies_eq
  | succ n ih =>
    obtain ⟨hsound, hfed, hreplies⟩ := h.next
    show (f.next.run id (List.replicate n .next)).replies = _
    rw [ih hsound, hfed]
    rcases hreplies with ⟨reply, hreply⟩ | ⟨hreply, hdue⟩
    · rw [hreply, List.length_append, List.length_singleton, Nat.add_assoc, Nat.add_comm 1 n]
    · rw [hreply, hdue, List.take_of_length_le (Nat.le_add_right _ _), List.take_of_length_le (Nat.le_add_right _ _)]

end Feed

/-! ## Opening the console -/

variable {path : String} {name : List String} {mode : Nat}

theorem lookup_of_locate (located : fs.locate path = .ok (.node name id)) : fs.lookup path = .ok (fs.node id) := by
  unfold lookup
  rw [located]

theorem openAt_file {content : ByteArray} (located : fs.locate path = .ok (.node name id))
    (node : fs.node id = .file mode content) :
    Source.openAt fs path = .ok ({ file := { node := id, access := .read } }, fs) := by
  have hopen : fs.openNode id .read = ({ node := id, access := .read }, fs) := by
    unfold openNode
    simp only [node]
  unfold Source.openAt openExisting
  simp only [lookup_of_locate located, node, located, hopen]

theorem openAt_fifo {pipe : Pipe} (located : fs.locate path = .ok (.node name id))
    (node : fs.node id = .fifo mode pipe) :
    Source.openAt fs path =
      .ok ({ file := { node := id, access := .readWrite } }, (fs.openNode id .readWrite).2) := by
  unfold Source.openAt openExisting
  simp only [lookup_of_locate located, node, located, ← openNode_file fs id .readWrite]

/-- **A console on a regular file gives the replies to its lines, each once and in order, and then says that it is
closed. A console on a FIFO gives the replies to the complete lines of what the FIFO took, one with each call as long
as there are any, however the bytes were written and whichever calls came between.** A FIFO is read in blocking mode,
as everybody who opens one gets it. -/
theorem replies_to_lines (located : fs.locate path = .ok (.node name id)) :
    (∀ content, fs.node id = .file mode content →
      ∃ s, Source.openAt fs path = .ok (s, fs) ∧
        ∀ n, s.callAfter n fs = ofReply ((lineReplies (lines content.data.toList))[n]?.getD (.error .closed))) ∧
    (∀ pipe, fs.node id = .fifo mode pipe → pipe.readNonblocking = false →
      ∃ s fs', Source.openAt fs path = .ok (s, fs') ∧
        ∀ (events : List Feed.Event) (n : Nat),
          let f := Feed.run id { source := s, fs := fs', fed := pipe.queue.toList } events
          (f.run id (List.replicate n .next)).replies =
            (lineReplies (completeLines f.fed)).take (f.replies.length + n)) := by
  constructor
  · intro content hnode
    refine ⟨_, openAt_file located hnode, fun n => ?_⟩
    have hholds : fs.Holds id content.data.toList := ⟨mode, content, hnode, rfl⟩
    have hstock : Stock fs { node := id, access := .read } .file content.data.toList := .file hholds nofun
    exact callAfter_eq ⟨_, hstock, rfl⟩ n
  · intro pipe hnode hwaits
    refine ⟨_, _, openAt_fifo located hnode, fun events n => ?_⟩
    have hcarries : fs.Carries id 0 pipe.queue.toList := ⟨mode, pipe, hnode, Nat.zero_le _, hwaits, rfl⟩
    have hstart : Feed.Sound id
        { source := { file := { node := id, access := .readWrite } }
          fs := (fs.openNode id .readWrite).2, fed := pipe.queue.toList } := by
      refine ⟨fun file hfile => absurd hfile List.not_mem_nil, pipe.queue.toList, ⟨_, .fifo rfl ?_ nofun, rfl⟩,
        .refl _ _⟩
      exact hcarries.openNode nofun
    exact (hstart.run events).calls n

/-- A root directory with nothing in it but a console. -/
def consoleRoot (node : Node) : FileSystem :=
  FileSystem.empty.addNamed ["op"] node

theorem locate_consoleRoot (node : Node) : (consoleRoot node).locate "op" = .ok (.node ["op"] 1) := by
  cbv

theorem replies_to_lines_stopLine :
    (∃ s, Source.openAt (consoleRoot (.file 0o644 ⟨#[80, 10, 255]⟩)) "op" =
        .ok (s, consoleRoot (.file 0o644 ⟨#[80, 10, 255]⟩)) ∧
      ∀ n, s.callAfter n (consoleRoot (.file 0o644 ⟨#[80, 10, 255]⟩)) =
        ofReply ((lineReplies (lines [80, 10, 255]))[n]?.getD (.error .closed))) ∧
    (∃ s fs', Source.openAt (consoleRoot (.fifo 0o600 {})) "op" = .ok (s, fs') ∧
      ∀ (events : List Feed.Event) (n : Nat),
        let f := Feed.run 1 { source := s, fs := fs', fed := [] } events
        (f.run 1 (List.replicate n .next)).replies =
          (lineReplies (completeLines f.fed)).take (f.replies.length + n)) :=
  ⟨(replies_to_lines (locate_consoleRoot _)).1 _ rfl, (replies_to_lines (locate_consoleRoot _)).2 {} rfl rfl⟩

/-- A line with a verb, a blank one, one that is no text, and an unterminated rest. -/
example : lineReplies (lines [80, 10, 32, 10, 255, 10, 70, 32, 88]) =
    [.ok .stop, .error (.read .invalidUtf8), .ok (.modify "X")] := by cbv

/-- A line that is written in two pieces, and the beginning of another one, with calls in between. -/
example :
    let f := Feed.run 1
      { source := { file := { node := 1, access := .readWrite } }
        fs := ((consoleRoot (.fifo 0o600 {})).openNode 1 .readWrite).2
        fed := [] }
      [.connect, .write 0 [80], .next, .write 0 [10, 70], .next, .disconnect 0, .next]
    (f.fed, f.replies) = ([80, 10, 70], [.ok .stop]) := by
  cbv

end BatchJob.Console
