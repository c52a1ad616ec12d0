import BatchJob.Proofs.Pipe.Calls

/-!
# The next call on a pipe with duplicates

As long as a pipe counts its duplicates right, a side of it is at its end just if no handle to that side is open
(`Sound.isHeld_iff`). So each call can be said to come to what it should by the handles alone (`Lawful`), and whatever
was called before makes no difference.

Main statement: `Sound.lawful`.
-/

namespace BatchJob.SharedPipe

variable {s : SharedPipe} {side : PipeEnd} {handle : Handle} {call : Call} {name n : Nat} {bytes : Bytes}

/-- The same handles to a pipe that holds other bytes. -/
def withQueue (s : SharedPipe) (queue : ByteQueue) : SharedPipe :=
  { s with pipe := { s.pipe with queue } }

/-- What the next call comes to, whichever it is. -/
structure Lawful (s : SharedPipe) : Prop where
  /-- A call through a handle that is not open is refused, and changes nothing. -/
  refuses : ∀ call side handle, call.through? = some (side, handle) → s.isOpen side handle = false →
    s.perform call = (.failed (handle.refusal side), s)
  /-- A call through an open handle is not refused. -/
  admits : ∀ call side handle, call.through? = some (side, handle) → s.isOpen side handle = true →
    (s.perform call).1 ≠ .failed (handle.refusal side)
  /-- As long as an own end is open it can be duplicated, and its side be put in non-blocking mode. -/
  manages : ∀ side, s.isOpen side .own = true →
    (s.perform (.duplicate side)).1 = .done (.opened s.duplicates.length) ∧
      (s.perform (.setNonblocking side)).1 = .done .finished
  /-- Closing an own end succeeds, and to close it again changes nothing. -/
  closes : ∀ side, (s.perform (.close side)).1 = .done .finished ∧
    (s.isOpen side .own = false → (s.perform (.close side)).2 = s)
  /-- As long as an end has an open duplicate, no call through another handle notices that the end is closed. -/
  unnoticed : ∀ side name call, s.isOpen side (.duplicate name) = true → call.through? ≠ some (side, .own) →
    (s.perform (.close side)).2.perform call =
      ((s.perform call).1, ((s.perform call).2.perform (.close side)).2)
  /-- A read gives bytes from the front of the queue if there are any. -/
  gives : ∀ handle n, s.isOpen .read handle = true → 0 < n → s.pipe.queue.toList ≠ [] →
    ∃ queue, s.perform (.read handle n) = (.done (.gave (s.pipe.queue.toList.take n)), s.withQueue queue) ∧
      queue.toList = s.pipe.queue.toList.drop n
  /-- It answers that there are none just when nobody can write any more either. -/
  ends : ∀ handle n, s.isOpen .read handle = true → 0 < n →
    ((s.perform (.read handle n)).1 = .done (.gave []) ↔
      s.pipe.queue.toList = [] ∧ ∀ writer, s.isOpen .write writer = false)
  /-- A write that somebody can read gets in what fits. -/
  takes : ∀ handle bytes, s.isOpen .write handle = true → (∃ reader, s.isOpen .read reader = true) → bytes ≠ [] →
    0 < s.pipe.room →
    ∃ queue, s.perform (.write handle bytes) =
        (.done (.took (min s.pipe.room bytes.length)), s.withQueue queue) ∧
      queue.toList = s.pipe.queue.toList ++ bytes.take s.pipe.room
  /-- If nothing fits and it may not wait, it fails. -/
  fills : ∀ handle bytes, s.isOpen .write handle = true → (∃ reader, s.isOpen .read reader = true) → bytes ≠ [] →
    s.pipe.room = 0 → s.pipe.isNonblocking .write = true →
    s.perform (.write handle bytes) = (.failed (handle.failure .write (.os .again)), s)
  /-- A write that nobody can read fails. -/
  breaks : ∀ handle bytes, s.isOpen .write handle = true → (∀ reader, s.isOpen .read reader = false) → bytes ≠ [] →
    s.perform (.write handle bytes) = (.failed (handle.failure .write (.os .pipe)), s)
  /-- Writing all through an own end that may not wait gets in what fits. It fails if that is not all, and the pipe is
  full then. -/
  writesAll : ∀ bytes, s.isOpen .write .own = true → (∃ reader, s.isOpen .read reader = true) →
    s.pipe.isNonblocking .write = true →
    ∃ outcome queue, s.perform (.writeAll bytes) = (outcome, s.withQueue queue) ∧
      queue.toList = s.pipe.queue.toList ++ bytes.take s.pipe.room ∧
      (outcome = .done .finished ↔ bytes.length ≤ s.pipe.room) ∧
      (s.pipe.room < bytes.length →
        ∃ e, outcome = .failed (.own e) ∧ e.isWouldBlock = true ∧ queue.toList.length = Pipe.capacity)

namespace Sound

/-- A read that answers that there is nothing has found the end of the stream. -/
theorem ends (sound : s.Sound) (hopen : s.isOpen .read handle = true) (hn : 0 < n) :
    (s.perform (.read handle n)).1 = .done (.gave []) ↔
      s.pipe.queue.toList = [] ∧ ∀ writer, s.isOpen .write writer = false := by
  have hends : s.pipe.hasWriter = false ↔ ∀ writer, s.isOpen .write writer = false := sound.not_isHeld_iff .write
  rw [perform_read hopen, ← hends]
  constructor
  · intro hnil
    rcases hfetch : s.pipe.fetch n with ⟨result, pipe⟩
    rw [hfetch] at hnil
    cases result with
    | done bytes =>
      cases hnil
      exact Pipe.fetch_done_nil hn hfetch
    | failed | blocked => cases hnil
  · rintro ⟨hempty, hended⟩
    rw [Pipe.fetch_of_ended hempty hended]
    rfl

/-- Where the own write end may not wait, writing all gets in what fits, and the pipe is full if that is not all. -/
theorem writesAll (sound : s.Sound) (hopen : s.isOpen .write .own = true) (hreader : s.pipe.hasReader = true)
    (prompt : s.pipe.isNonblocking .write = true) (bytes : Bytes) :
    ∃ outcome queue, s.perform (.writeAll bytes) = (outcome, s.withQueue queue) ∧
      queue.toList = s.pipe.queue.toList ++ bytes.take s.pipe.room ∧
      (outcome = .done .finished ↔ bytes.length ≤ s.pipe.room) ∧
      (s.pipe.room < bytes.length →
        ∃ e, outcome = .failed (.own e) ∧ e.isWouldBlock = true ∧ queue.toList.length = Pipe.capacity) := by
  have hall := Pipe.writeAll_prompt hopen hreader prompt bytes
  by_cases hfits : bytes.length ≤ s.pipe.room
  · rw [if_pos hfits] at hall
    refine ⟨.done .finished, s.pipe.queue.append (bytes.take s.pipe.room), ?_, ByteQueue.toList_append _ _,
      iff_of_true rfl hfits, fun hmore => absurd hfits (by omega)⟩
    simp only [perform, hall]
    rfl
  · rw [if_neg hfits] at hall
    refine ⟨.failed (.own (.write (.os .again))), s.pipe.queue.append (bytes.take s.pipe.room), ?_,
      ByteQueue.toList_append _ _, iff_of_false ?_ hfits, fun hmore => ⟨_, rfl, rfl, ?_⟩⟩
    · simp only [perform, hall]
      rfl
    · intro hdone
      cases hdone
    · -- the queue was no fuller than the capacity, so the room is exactly what was missing
      have hheld := sound.fits
      rw [ByteQueue.toList_append, List.length_append, ByteQueue.length_toList, List.length_take]
      unfold Pipe.room at hfits ⊢
      omega

/-- A call through another handle commutes with closing an own end that has a duplicate. -/
theorem unnoticed (sound : s.Sound) (hopen : s.isOpen side (.duplicate name) = true)
    (other : call.through? ≠ some (side, .own)) :
    (s.perform (.close side)).2.perform call =
      ((s.perform call).1, ((s.perform call).2.perform (.close side)).2) := by
  have hheld := sound.duplicatesOf_pos hopen
  -- a call looks at the other handles only to see whether a side can be reached, and this one still can
  show ({ s with pipe := s.pipe.close side } : SharedPipe).perform call = _
  cases call with
  | read handle n =>
    cases handle with
    | own =>
      have hside : side ≠ .read := fun hsame => other (by rw [hsame]; rfl)
      simp only [perform, Pipe.read_close hheld hside]
    | duplicate name =>
      have hsame : ({ s with pipe := s.pipe.close side } : SharedPipe).isOpen .read (.duplicate name) =
          s.isOpen .read (.duplicate name) := rfl
      simp only [perform, hsame, Pipe.fetch_close hheld]
      cases s.isOpen .read (.duplicate name) <;> rfl
  | write handle bytes =>
    cases handle with
    | own =>
      have hside : side ≠ .write := fun hsame => other (by rw [hsame]; rfl)
      simp only [perform, Pipe.write_close hheld hside]
    | duplicate name =>
      have hsame : ({ s with pipe := s.pipe.close side } : SharedPipe).isOpen .write (.duplicate name) =
          s.isOpen .write (.duplicate name) := rfl
      simp only [perform, hsame, Pipe.offer_close hheld]
      cases s.isOpen .write (.duplicate name) <;> rfl
  | writeAll bytes =>
    by_cases hnil : bytes = []
    · subst hnil
      simp only [perform, Pipe.writeAll_nil]
    · have hside : side ≠ .write := fun hsame => other (by rw [hsame]; exact if_neg hnil)
      simp only [perform, Pipe.writeAll_close hheld hside]
  | setNonblocking set =>
    have hside : side ≠ set := fun hsame => other (by rw [hsame]; rfl)
    simp only [perform, Pipe.setNonblocking_close hside]
    cases s.pipe.setNonblocking set <;> rfl
  | duplicate made =>
    have hside : side ≠ made := fun hsame => other (by rw [hsame]; rfl)
    simp only [perform, Pipe.duplicate_close hside]
    cases s.pipe.duplicate made <;> rfl
  | close closing => simp only [perform, Pipe.close_close]
  | closeDuplicate closing =>
    simp only [perform]
    rcases s.duplicates[closing]? with _ | _ | dropped
    · rfl
    · rfl
    · simp only [Pipe.dropDuplicate_close]

/-- **Whatever the next call is, it does what it should**, as long as the pipe counts its duplicates right. -/
theorem lawful (sound : s.Sound) : s.Lawful where
  refuses _ _ _ through closed := perform_refused through closed
  admits _ _ _ through hopen := perform_admitted through hopen
  manages side hopen := by
    have hset : s.pipe.isOpen side = true := hopen
    simp only [perform, Pipe.duplicate, Pipe.setNonblocking, hset, if_true, and_self]
  closes side := by
    refine ⟨rfl, fun hclosed => ?_⟩
    simp only [perform, Pipe.close_of_closed hclosed]
  unnoticed _ _ _ hopen other := sound.unnoticed hopen other
  gives handle n hopen hn some := by
    refine ⟨(s.pipe.queue.take n).2, ?_, ByteQueue.toList_take _ _⟩
    rw [perform_read hopen, Pipe.fetch_of_ne_nil some hn]
    rfl
  ends _ _ hopen hn := sound.ends hopen hn
  takes handle bytes hopen reader some fits := by
    have hreader : s.pipe.hasReader = true := (sound.isHeld_iff .read).mpr reader
    refine ⟨s.pipe.queue.append (bytes.take s.pipe.room), ?_, ByteQueue.toList_append _ _⟩
    rw [perform_write hopen, Pipe.offer_of_room some hreader fits]
    rfl
  fills handle bytes hopen reader some full prompt := by
    have hreader : s.pipe.hasReader = true := (sound.isHeld_iff .read).mpr reader
    rw [perform_write hopen, Pipe.offer_of_full some hreader full prompt]
    rfl
  breaks handle bytes hopen unread some := by
    have hreader : s.pipe.hasReader = false := (sound.not_isHeld_iff .read).mpr unread
    rw [perform_write hopen, Pipe.offer_of_unread some hreader]
    rfl
  writesAll bytes hopen reader prompt := sound.writesAll hopen ((sound.isHeld_iff .read).mpr reader) prompt bytes

end Sound

end BatchJob.SharedPipe
