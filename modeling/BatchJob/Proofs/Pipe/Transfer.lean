import BatchJob.Pipe

/-!
# What passes through a pipe

One lemma for each way a transfer through a pipe can turn out. A read takes its bytes off the front of
the queue (`fetch_done`), and gives none only when the queue is empty and nobody can write any more
(`fetch_done_nil`). A write puts a prefix of what it offers at the back (`offer_done`). Nothing
else changes the queue, and no transfer changes who holds an end.

A pipe is *sealed* when it is empty and can only stay so: nobody can write, or nobody can read and so
every write is refused. It is the state in which the end of an output is reached.
-/

namespace BatchJob

/-- How many of the bytes it was offered a call took. -/
def Attempt.taken : Attempt IoError Nat → Nat
  | .done n => n
  | .failed _ | .blocked => 0

/-- The bytes that a read gave. -/
def Attempt.given {ε : Type} : Attempt ε Bytes → Bytes
  | .done bytes => bytes
  | .failed _ | .blocked => []

@[simp] theorem Attempt.given_mapError {ε ε' : Type} (f : ε → ε') (result : Attempt ε Bytes) :
    (result.mapError f).given = result.given := by
  cases result <;> rfl

namespace Pipe

variable {p p' : Pipe} {n : Nat} {bytes : Bytes}

/-- Two pipes that differ in nothing but their bytes. -/
def SameEnds (p p' : Pipe) : Prop :=
  p' = { p with queue := p'.queue }

theorem SameEnds.hasReader (h : SameEnds p p') : p'.hasReader = p.hasReader := by
  rw [h]
  rfl

theorem SameEnds.hasWriter (h : SameEnds p p') : p'.hasWriter = p.hasWriter := by
  rw [h]
  rfl

/-! ## Reading -/

/-- A read through any handle takes its bytes off the front of the queue. -/
theorem fetch_done (h : p.fetch n = (.done bytes, p')) :
    SameEnds p p' ∧ bytes ++ p'.queue.toList = p.queue.toList ∧ bytes.length ≤ n := by
  unfold fetch at h
  split at h
  next =>
    cases h
    exact ⟨rfl, rfl, Nat.zero_le _⟩
  next =>
    split at h
    next =>
      have hfront := ByteQueue.take_fst p.queue n
      have hback := ByteQueue.toList_take p.queue n
      rcases htake : p.queue.take n with ⟨taken, queue⟩
      rw [htake] at h hfront hback
      cases h
      refine ⟨rfl, ?_, ?_⟩
      · calc bytes ++ queue.toList
            = p.queue.toList.take n ++ p.queue.toList.drop n := by rw [← hfront, ← hback]
          _ = p.queue.toList := List.take_append_drop n _
      · calc bytes.length = (p.queue.toList.take n).length := congrArg List.length hfront
          _ ≤ n := List.length_take_le _ _
    next =>
      split at h
      next =>
        cases h
        exact ⟨rfl, rfl, Nat.zero_le _⟩
      next => split at h <;> cases h

/-- A read of at least one byte gives none only at the end of the data. -/
theorem fetch_done_nil (hn : 0 < n) (h : p.fetch n = (.done [], p')) :
    p.queue.toList = [] ∧ p.hasWriter = false := by
  unfold fetch at h
  rw [if_neg (by omega)] at h
  split at h
  next hq =>
    -- a queue with a byte in it gives at least that byte
    have hfront := ByteQueue.take_fst p.queue n
    rcases htake : p.queue.take n with ⟨taken, queue⟩
    rw [htake] at h hfront
    cases h
    rcases List.take_eq_nil_iff.mp hfront.symm with hzero | hnil
    · omega
    · rw [(ByteQueue.isEmpty_iff _).mpr hnil] at hq
      exact absurd hq (by simp)
  next hq =>
    have hnil : p.queue.toList = [] := (ByteQueue.isEmpty_iff _).mp (by simpa using hq)
    split at h
    next hw => exact ⟨hnil, by simpa using hw⟩
    next => split at h <;> cases h

/-- A pipe that holds a byte or has lost its last writer does not keep a reader waiting, and does not
refuse it. -/
theorem fetch_of_isReadable (hr : p.isReadable = true) (n : Nat) :
    ∃ bytes p', p.fetch n = (.done bytes, p') := by
  unfold fetch
  split
  next => exact ⟨_, _, rfl⟩
  next =>
    split
    next => exact ⟨_, _, rfl⟩
    next hq =>
      have hw : (!p.hasWriter) = true := by
        unfold isReadable at hr
        simp only [Bool.not_eq_true, Bool.not_eq_false'] at hq
        simpa [hq] using hr
      rw [if_pos hw]
      exact ⟨_, _, rfl⟩

/-- A read of a pipe with bytes in it gives the first of them. -/
theorem fetch_of_ne_nil (some : p.queue.toList ≠ []) (hn : 0 < n) :
    p.fetch n = (.done (p.queue.toList.take n), { p with queue := (p.queue.take n).2 }) := by
  have hfull : (!p.queue.isEmpty) = true := by
    rw [Bool.not_eq_true', Bool.eq_false_iff]
    intro hempty
    exact some ((ByteQueue.isEmpty_iff _).mp hempty)
  unfold fetch
  rw [if_neg (by omega), if_pos hfull, ← ByteQueue.take_fst]

/-- A read of an empty pipe that somebody can still write to waits. -/
theorem fetch_of_nil (empty : p.queue.toList = []) (writer : p.hasWriter = true) (waits : p.readNonblocking = false)
    (hn : 0 < n) : p.fetch n = (.blocked, p) := by
  have hempty : p.queue.isEmpty = true := (ByteQueue.isEmpty_iff _).mpr empty
  unfold fetch
  rw [if_neg (by omega), hempty, writer, waits]
  rfl

/-- A read of an empty pipe that nobody can write to any more gives nothing. -/
theorem fetch_of_ended (empty : p.queue.toList = []) (ended : p.hasWriter = false) (n : Nat) :
    p.fetch n = (.done [], p) := by
  have hempty : p.queue.isEmpty = true := (ByteQueue.isEmpty_iff _).mpr empty
  unfold fetch
  rw [hempty, ended]
  split <;> rfl

/-- A read through any handle fails only because it would have to wait. -/
theorem fetch_failed {e : IoError} (h : p.fetch n = (.failed e, p')) : e = .os .again := by
  unfold fetch at h
  split at h
  next => cases h
  next =>
    split at h
    next => cases h
    next =>
      split at h
      next => cases h
      next =>
        split at h
        next =>
          cases h
          rfl
        next => cases h

/-- Whatever a read of a pipe comes to, it gives the first bytes of the queue, and none only if there are none. -/
theorem fetch_given {result : Attempt IoError Bytes} (h : p.fetch n = (result, p')) :
    SameEnds p p' ∧ result.given ++ p'.queue.toList = p.queue.toList ∧
      (0 < n → result.given = [] → p.queue.toList = []) := by
  cases result with
  | done bytes =>
    obtain ⟨hends, hqueue, -⟩ := fetch_done h
    refine ⟨hends, hqueue, fun hn hnil => ?_⟩
    obtain rfl : bytes = [] := hnil
    exact (fetch_done_nil hn h).1
  | failed | blocked =>
    unfold fetch at h
    split at h
    next => cases h
    next =>
      split at h
      next => cases h
      next hq =>
        have hnil : p.queue.toList = [] := (ByteQueue.isEmpty_iff _).mp (by simpa using hq)
        split at h
        next => cases h
        next =>
          -- nothing is given and nothing changes, in either mode of the pipe
          split at h <;> cases h
          all_goals exact ⟨rfl, rfl, fun _ _ => hnil⟩

/-- The own end is a handle like any other as long as it is open. -/
theorem read_of_open (hopen : p.readOpen = true) (n : Nat) :
    p.read n = ((p.fetch n).1.mapError .read, (p.fetch n).2) := by
  unfold read
  rw [if_pos hopen]

theorem read_of_closed (closed : p.readOpen = false) (n : Nat) : p.read n = (.failed (.closed .read), p) := by
  unfold read
  rw [closed]
  rfl

/-- What a read through the own end gives, when it gives something. -/
theorem read_done (h : p.read n = (.done bytes, p')) :
    p.readOpen = true ∧ p.fetch n = (.done bytes, p') := by
  unfold read at h
  split at h
  next hopen =>
    refine ⟨hopen, ?_⟩
    cases hf : p.fetch n with
    | mk result q =>
      rw [hf] at h
      cases result with
      | done b =>
        cases h
        rfl
      | failed e => cases h
      | blocked => cases h
  next => cases h

/-- An open end of a pipe that is ready for reading gives bytes. -/
theorem read_of_isReadable (hopen : p.readOpen = true) (hr : p.isReadable = true) (n : Nat) :
    ∃ bytes p', p.read n = (.done bytes, p') := by
  obtain ⟨bytes, p', h⟩ := fetch_of_isReadable hr n
  refine ⟨bytes, p', ?_⟩
  unfold read
  rw [if_pos hopen, h]
  rfl

/-! ## Writing -/

/-- A write through any handle puts a prefix of what it offers at the back of the queue. -/
theorem offer_done (h : p.offer bytes = (.done n, p')) :
    SameEnds p p' ∧ n ≤ bytes.length ∧ p'.queue.toList = p.queue.toList ++ bytes.take n := by
  unfold offer at h
  split at h
  next =>
    cases h
    exact ⟨rfl, Nat.zero_le _, by simp⟩
  next =>
    split at h
    next => cases h
    next =>
      split at h
      next => split at h <;> cases h
      next =>
        cases h
        refine ⟨rfl, List.length_take_le' _ _, ?_⟩
        rw [ByteQueue.toList_append, List.length_take, List.take_eq_take_min]

/-- A write that is not accepted leaves the pipe alone. -/
theorem offer_refused {result : Attempt IoError Nat} (h : p.offer bytes = (result, p'))
    (refused : ∀ n, result ≠ .done n) : p' = p := by
  unfold offer at h
  split at h
  next =>
    cases h
    rfl
  next =>
    split at h
    next =>
      cases h
      rfl
    next =>
      split at h
      next =>
        split at h
        next =>
          cases h
          rfl
        next =>
          cases h
          rfl
      next =>
        cases h
        exact absurd rfl (refused _)

/-- A write puts into the pipe what it took, and changes nothing else. -/
theorem offer_taken (p : Pipe) (bytes : Bytes) :
    SameEnds p (p.offer bytes).2 ∧
      (p.offer bytes).2.queue.toList = p.queue.toList ++ bytes.take (p.offer bytes).1.taken := by
  rcases hoffer : p.offer bytes with ⟨result, p'⟩
  cases result with
  | done n =>
    obtain ⟨hends, -, hqueue⟩ := offer_done hoffer
    exact ⟨hends, hqueue⟩
  | failed e | blocked =>
    obtain rfl := offer_refused hoffer nofun
    exact ⟨rfl, (List.append_nil _).symm⟩

/-- A write that nobody can read puts nothing into the queue. -/
theorem offer_done_unread (hr : p.hasReader = false) (h : p.offer bytes = (.done n, p')) :
    bytes = [] ∧ p' = p := by
  unfold offer at h
  split at h
  next hnil =>
    cases h
    exact ⟨by simpa using hnil, rfl⟩
  next =>
    rw [hr] at h
    cases h

/-- A write of some bytes that is accepted takes up room, at least for one byte. -/
theorem offer_done_some (some : bytes ≠ []) (h : p.offer bytes = (.done n, p')) :
    p.hasReader = true ∧ 0 < n ∧ p'.room + n = p.room := by
  unfold offer at h
  split at h
  next hnil => exact absurd (List.isEmpty_iff.mp hnil) some
  next =>
    split at h
    next => cases h
    next hreader =>
      split at h
      next => split at h <;> cases h
      next hroom =>
        cases h
        have hlen : 0 < bytes.length := List.length_pos_iff.mpr some
        refine ⟨by simpa using hreader, ?_, ?_⟩
        · rw [List.length_take]
          omega
        · show capacity - (p.queue.size + (bytes.take p.room).length) + (bytes.take p.room).length = p.room
          have hfits : (bytes.take p.room).length ≤ p.room := List.length_take_le _ _
          unfold room at hfits ⊢
          omega

/-- A pipe that somebody reads takes what fits. -/
theorem offer_of_room (some : bytes ≠ []) (reader : p.hasReader = true) (fits : 0 < p.room) :
    p.offer bytes =
      (.done (min p.room bytes.length), { p with queue := p.queue.append (bytes.take p.room) }) := by
  have hsome : bytes.isEmpty = false := Bool.eq_false_iff.mpr (mt List.isEmpty_iff.mp some)
  unfold offer
  rw [hsome, reader, if_neg (Nat.ne_of_gt fits), ← List.length_take]
  rfl

/-- A full pipe that somebody reads refuses a write that may not wait. -/
theorem offer_of_full (some : bytes ≠ []) (reader : p.hasReader = true) (full : p.room = 0)
    (prompt : p.writeNonblocking = true) : p.offer bytes = (.failed (.os .again), p) := by
  have hsome : bytes.isEmpty = false := Bool.eq_false_iff.mpr (mt List.isEmpty_iff.mp some)
  unfold offer
  rw [hsome, reader, if_pos full, prompt]
  rfl

/-- A pipe that nobody can read any more refuses every write. -/
theorem offer_of_unread (some : bytes ≠ []) (unread : p.hasReader = false) :
    p.offer bytes = (.failed (.os .pipe), p) := by
  have hsome : bytes.isEmpty = false := Bool.eq_false_iff.mpr (mt List.isEmpty_iff.mp some)
  unfold offer
  rw [hsome, unread]
  rfl

/-- The own end is a handle like any other as long as it is open. -/
theorem write_of_open (hopen : p.writeOpen = true) (bytes : Bytes) :
    p.write bytes = ((p.offer bytes).1.mapError .write, (p.offer bytes).2) := by
  unfold write
  rw [if_pos hopen]

theorem write_of_closed (closed : p.writeOpen = false) (bytes : Bytes) :
    p.write bytes = (.failed (.closed .write), p) := by
  unfold write
  rw [closed]
  rfl

/-- What a write through the own end comes to, when it is accepted. -/
theorem write_done (h : p.write bytes = (.done n, p')) :
    p.writeOpen = true ∧ p.offer bytes = (.done n, p') := by
  unfold write at h
  split at h
  next hopen =>
    refine ⟨hopen, ?_⟩
    cases hf : p.offer bytes with
    | mk result q =>
      rw [hf] at h
      cases result with
      | done b =>
        cases h
        rfl
      | failed e => cases h
      | blocked => cases h
  next => cases h

/-- A write through any handle fails only because the pipe is broken or full. -/
theorem offer_failed {e : IoError} (h : p.offer bytes = (.failed e, p')) :
    e = .os .pipe ∨ e = .os .again := by
  unfold offer at h
  split at h
  next => cases h
  next =>
    split at h
    next =>
      cases h
      exact .inl rfl
    next =>
      split at h
      next =>
        split at h
        next =>
          cases h
          exact .inr rfl
        next => cases h
      next => cases h

/-- A write through the own end, while that is open, fails only because the pipe is broken or full. -/
theorem write_failed {e : PipeError} (hopen : p.writeOpen = true) (h : p.write bytes = (.failed e, p')) :
    e.isBroken = true ∨ e.isWouldBlock = true := by
  unfold write at h
  rw [if_pos hopen] at h
  rcases hoffer : p.offer bytes with ⟨result, q⟩
  rw [hoffer] at h
  cases result with
  | done k => cases h
  | failed cause =>
    cases h
    rcases offer_failed hoffer with rfl | rfl
    · exact .inl rfl
    · exact .inr rfl
  | blocked => cases h

/-- A write through the own end is refused only by a pipe that somebody reads and that is full. -/
theorem write_refused {e : PipeError} (h : p.write bytes = (.failed e, p')) (full : e.isWouldBlock = true) :
    p.hasReader = true ∧ p.room = 0 := by
  unfold write at h
  split at h
  next =>
    rcases hoffer : p.offer bytes with ⟨result, q⟩
    rw [hoffer] at h
    cases result with
    | done | blocked => cases h
    | failed cause =>
      cases h
      unfold offer at hoffer
      split at hoffer
      next => cases hoffer
      next =>
        split at hoffer
        next =>
          cases hoffer
          cases full
        next hreader =>
          split at hoffer
          next hroom => exact ⟨by simpa using hreader, hroom⟩
          next => cases hoffer
  next =>
    cases h
    cases full

/-- A write in non-blocking mode does not wait for room. -/
theorem write_prompt (h : p.writeNonblocking = true) (bytes : Bytes) : (p.write bytes).1 ≠ .blocked := by
  have hoffer : (p.offer bytes).1 ≠ .blocked := by
    unfold offer
    split
    next => nofun
    next =>
      split
      next => nofun
      next =>
        rw [h]
        split <;> nofun
  unfold write
  split
  next =>
    rcases hresult : p.offer bytes with ⟨result, q⟩
    rw [hresult] at hoffer
    cases result with
    | done | failed => nofun
    | blocked => exact absurd rfl hoffer
  next => nofun

/-- The mode of the write side is all that changes when it is set. -/
theorem setNonblocking_ok (h : p.setNonblocking .write = .ok p') : p' = { p with writeNonblocking := true } := by
  unfold setNonblocking at h
  split at h
  next =>
    cases h
    rfl
  next => cases h

/-! ## Sealed pipes -/

/-- The pipe is empty and stays so. -/
structure Sealed (p : Pipe) : Prop where
  empty : p.queue.toList = []
  shut : p.hasWriter = false ∨ p.hasReader = false

/-- Closing the own read end of a pipe at its end of data seals it. -/
theorem sealed_close_read (hq : p.queue.toList = []) (hw : p.hasWriter = false) :
    (p.close .read).Sealed :=
  ⟨hq, .inl hw⟩

end Pipe

end BatchJob
