import BatchJob.Proofs.Pipe.Lawful

/-!
# The stream through a pipe with duplicates

A pipe carries one stream, however many handles it is written and read through. Every call keeps this so
(`Effect.kept`), and every call leaves the handles open that it should (`Effect.isOpen_iff`). So after any calls
what was given and what is queued is what was taken, in order, and a handle is open just if it was made and has not been
closed since.

Main statement: `stream_lawful`.
-/

namespace BatchJob.SharedPipe

variable {s s' : SharedPipe} {side : PipeEnd} {handle : Handle} {name : Nat}

/-! ## What one call leaves behind -/

/-- The call has made a handle to a side. -/
def Entry.Opens (e : Entry) (side : PipeEnd) : Handle → Prop
  | .own => False
  | .duplicate name => e.call = .duplicate side ∧ e.outcome = .done (.opened name)

/-- The call has closed a handle to a side. -/
def Entry.Closes (e : Entry) (side : PipeEnd) : Handle → Prop
  | .own => e.call = .close side
  | .duplicate name => e.call = .closeDuplicate name ∧ e.outcome = .done .finished

/-- The call has put a side in non-blocking mode. -/
def Entry.Sets (e : Entry) (side : PipeEnd) : Prop :=
  e.call = .setNonblocking side ∧ e.outcome = .done .finished

namespace Effect

variable {e : Entry}

/-- What was queued and what is taken is given or queued. -/
theorem kept (h : Effect s e s') :
    e.outcome.given ++ s'.pipe.queue.toList = s.pipe.queue.toList ++ e.taken := by
  have hsame : ∀ pipe : Pipe, pipe.queue = s.pipe.queue → [] ++ pipe.queue.toList = s.pipe.queue.toList ++ [] := by
    intro pipe hqueue
    rw [hqueue, List.nil_append, List.append_nil]
  cases h with
  | refused => exact hsame _ rfl
  | moved _ transfer => exact transfer.kept
  | set set => exact hsame _ (Pipe.setNonblocking_spec set).2.1
  | opened duplicate => exact hsame _ (Pipe.duplicate_spec duplicate).2.1
  | @closed side => exact hsame _ (s.pipe.close_spec side).1
  | @closedDuplicate _ side => exact hsame _ (s.pipe.dropDuplicate_spec side).1

/-- A side is in non-blocking mode once it was put there. -/
theorem isNonblocking_iff (h : Effect s e s') (side : PipeEnd) :
    s'.pipe.isNonblocking side = true ↔ s.pipe.isNonblocking side = true ∨ e.Sets side := by
  cases h with
  | refused => simp [Entry.Sets]
  | @moved call _ _ _ transfers transfer =>
    have hcall : call ≠ .setNonblocking side := by
      rintro rfl
      exact transfers
    simp [Entry.Sets, hcall, (transfer.sameEnds.sides side).2.2]
  | @set set pipe ok =>
    have hmode := ((Pipe.setNonblocking_spec ok).2.2 side).2.2
    simp [Entry.Sets, hmode]
  | opened duplicate => simp [Entry.Sets, ((Pipe.duplicate_spec duplicate).2.2 side).2.2]
  | @closed closing => simp [Entry.Sets, ((s.pipe.close_spec closing).2 side).2.2]
  | @closedDuplicate _ closing => simp [Entry.Sets, ((s.pipe.dropDuplicate_spec closing).2 side).2.2]

/-- An own end is open until it is closed. -/
theorem isOpen_own_iff (h : Effect s e s') (side : PipeEnd) :
    s'.isOpen side .own = true ↔ s.isOpen side .own = true ∧ ¬e.Closes side .own := by
  show s'.pipe.isOpen side = true ↔ s.pipe.isOpen side = true ∧ e.call ≠ .close side
  cases h with
  | refused closesNone => exact (and_iff_left (closesNone side)).symm
  | @moved call _ _ _ transfers transfer =>
    have hcall : call ≠ .close side := by
      rintro rfl
      exact transfers
    rw [(transfer.sameEnds.sides side).1]
    exact (and_iff_left hcall).symm
  | set ok =>
    rw [((Pipe.setNonblocking_spec ok).2.2 side).1]
    exact (and_iff_left nofun).symm
  | opened duplicate =>
    rw [((Pipe.duplicate_spec duplicate).2.2 side).1]
    exact (and_iff_left nofun).symm
  | @closed closing => simp [((s.pipe.close_spec closing).2 side).1]
  | @closedDuplicate _ closing =>
    rw [((s.pipe.dropDuplicate_spec closing).2 side).1]
    exact (and_iff_left nofun).symm

/-- A duplicate is open from when it is made until it is closed. -/
theorem isOpen_duplicate_iff (h : Effect s e s') (side : PipeEnd) (name : Nat) :
    s'.isOpen side (.duplicate name) = true ↔
      (s.isOpen side (.duplicate name) = true ∨ e.Opens side (.duplicate name)) ∧ ¬e.Closes side (.duplicate name) := by
  rw [isOpen_duplicate, isOpen_duplicate]
  cases h with
  | refused => simp [Entry.Opens, Entry.Closes]
  | @moved call _ _ _ transfers transfer =>
    have hmade : call ≠ .duplicate side := by
      rintro rfl
      exact transfers
    have hclosed : call ≠ .closeDuplicate name := by
      rintro rfl
      exact transfers
    simp [Entry.Opens, Entry.Closes, hmade, hclosed]
  | set | closed => simp [Entry.Opens, Entry.Closes]
  | @opened made pipe duplicate =>
    show (s.duplicates ++ [some made])[name]? = _ ↔ _
    rcases Nat.lt_trichotomy name s.duplicates.length with hlt | rfl | hgt
    · have hne : s.duplicates.length ≠ name := Nat.ne_of_gt hlt
      simp [Entry.Opens, Entry.Closes, List.getElem?_append_left hlt, hne]
    · simp [Entry.Opens, Entry.Closes]
    · have hne : s.duplicates.length ≠ name := Nat.ne_of_lt hgt
      have hbeyond : s.duplicates[name]? = none := List.getElem?_eq_none (Nat.le_of_lt hgt)
      have hlen : (s.duplicates ++ [some made])[name]? = none := by
        refine List.getElem?_eq_none ?_
        rw [List.length_append, List.length_singleton]
        omega
      simp [Entry.Opens, Entry.Closes, hbeyond, hlen, hne]
  | @closedDuplicate closed closing was =>
    show (s.duplicates.set closed none)[name]? = _ ↔ _
    by_cases hsame : closed = name
    · subst hsame
      obtain ⟨hlt, -⟩ := List.getElem?_eq_some_iff.mp was
      simp [Entry.Opens, Entry.Closes, List.getElem?_set_self hlt]
    · simp [Entry.Opens, Entry.Closes, List.getElem?_set_ne hsame, hsame]

/-- A handle is open from when it is made until it is closed. -/
theorem isOpen_iff (h : Effect s e s') (side : PipeEnd) (handle : Handle) :
    s'.isOpen side handle = true ↔ (s.isOpen side handle = true ∨ e.Opens side handle) ∧ ¬e.Closes side handle := by
  cases handle with
  | own => rw [h.isOpen_own_iff, Entry.Opens, or_false]
  | duplicate name => exact h.isOpen_duplicate_iff side name

/-- A new duplicate has a new name. -/
theorem name_of_opens (h : Effect s e s') (opens : e.Opens side (.duplicate name)) : name = s.duplicates.length := by
  obtain ⟨hcall, houtcome⟩ := opens
  cases h with
  | refused => cases houtcome
  | moved transfers =>
    cases hcall
    exact transfers.elim
  | set | closed | closedDuplicate => cases hcall
  | opened =>
    cases houtcome
    rfl

/-- A duplicate that is closed was made before. -/
theorem lt_of_closes (h : Effect s e s') (closes : e.Closes side (.duplicate name)) : name < s.duplicates.length := by
  obtain ⟨hcall, houtcome⟩ := closes
  cases h with
  | refused => cases houtcome
  | moved transfers =>
    cases hcall
    exact transfers.elim
  | set | opened | closed => cases hcall
  | closedDuplicate was =>
    cases hcall
    exact (List.getElem?_eq_some_iff.mp was).1

/-- No name is given out twice. -/
theorem length_le (h : Effect s e s') : s.duplicates.length ≤ s'.duplicates.length := by
  cases h with
  | refused | moved | set | closed => exact Nat.le_refl _
  | opened =>
    rw [List.length_append]
    exact Nat.le_add_right _ _
  | closedDuplicate => exact Nat.le_of_eq (List.length_set ..).symm

end Effect

/-! ## Calls one after another -/

/-- Makes calls one after another, whatever comes of them, and notes them. -/
def performAll (s : SharedPipe) : List Call → List Entry × SharedPipe
  | [] => ([], s)
  | call :: calls =>
    let (entries, s') := (s.perform call).2.performAll calls
    (s.noted call :: entries, s')

/-- Every call is noted, and what is noted of it is faithful. -/
theorem performAll_noted (s : SharedPipe) (calls : List Call) :
    (s.performAll calls).1.map Entry.call = calls ∧ ∀ e ∈ (s.performAll calls).1, e.Faithful := by
  induction calls generalizing s with
  | nil => exact ⟨rfl, fun _ hmem => absurd hmem List.not_mem_nil⟩
  | cons call calls ih =>
    obtain ⟨hcalls, hfaithful⟩ := ih (s.perform call).2
    exact ⟨congrArg (call :: ·) hcalls, List.forall_mem_cons.mpr ⟨s.noted_faithful call, hfaithful⟩⟩

theorem Sound.performAll (sound : s.Sound) (calls : List Call) : (s.performAll calls).2.Sound := by
  induction calls generalizing s with
  | nil => exact sound
  | cons call calls ih => exact ih ((s.perform_effect call).sound sound)

/-- What was queued and what has been taken since has been given or is queued, in this order. -/
theorem kept_performAll (s : SharedPipe) (calls : List Call) :
    ((s.performAll calls).1.flatMap fun e => e.outcome.given) ++ (s.performAll calls).2.pipe.queue.toList =
      s.pipe.queue.toList ++ (s.performAll calls).1.flatMap Entry.taken := by
  induction calls generalizing s with
  | nil => exact (List.append_nil _).symm
  | cons call calls ih =>
    let e := s.noted call
    let s₁ := (s.perform call).2
    have hfirst : e.outcome.given ++ s₁.pipe.queue.toList = s.pipe.queue.toList ++ e.taken :=
      (s.perform_effect call).kept
    calc e.outcome.given ++ ((s₁.performAll calls).1.flatMap fun e => e.outcome.given) ++
            (s₁.performAll calls).2.pipe.queue.toList
        = e.outcome.given ++ (s₁.pipe.queue.toList ++ (s₁.performAll calls).1.flatMap Entry.taken) := by
          rw [List.append_assoc, ih s₁]
      _ = s.pipe.queue.toList ++ (e.taken ++ (s₁.performAll calls).1.flatMap Entry.taken) := by
          rw [← List.append_assoc, hfirst, List.append_assoc]

theorem isNonblocking_performAll (s : SharedPipe) (calls : List Call) (side : PipeEnd) :
    (s.performAll calls).2.pipe.isNonblocking side = true ↔
      s.pipe.isNonblocking side = true ∨ ∃ e ∈ (s.performAll calls).1, e.Sets side := by
  induction calls generalizing s with
  | nil => simp [performAll]
  | cons call calls ih =>
    show (performAll (s.perform call).2 calls).2.pipe.isNonblocking side = true ↔
      _ ∨ ∃ e ∈ s.noted call :: (performAll (s.perform call).2 calls).1, e.Sets side
    rw [ih, (s.perform_effect call).isNonblocking_iff, or_assoc]
    simp only [List.mem_cons, exists_eq_or_imp]

/-- A duplicate that is made later has a name that was not given out before. -/
theorem le_name_of_opens {calls : List Call} {e : Entry} (mem : e ∈ (s.performAll calls).1)
    (opens : e.Opens side (.duplicate name)) : s.duplicates.length ≤ name := by
  induction calls generalizing s with
  | nil => cases mem
  | cons call calls ih =>
    have heffect := s.perform_effect call
    rcases List.mem_cons.mp mem with rfl | hlater
    · exact Nat.le_of_eq (heffect.name_of_opens opens).symm
    · exact Nat.le_trans heffect.length_le (ih hlater)

theorem isOpen_performAll (s : SharedPipe) (calls : List Call) (side : PipeEnd) (handle : Handle) :
    (s.performAll calls).2.isOpen side handle = true ↔
      (s.isOpen side handle = true ∨ ∃ e ∈ (s.performAll calls).1, e.Opens side handle) ∧
        ∀ e ∈ (s.performAll calls).1, ¬e.Closes side handle := by
  induction calls generalizing s with
  | nil => simp [performAll]
  | cons call calls ih =>
    have heffect := s.perform_effect call
    -- what the first call closes is not made again later
    have hfresh : (∃ e ∈ (performAll (s.perform call).2 calls).1, e.Opens side handle) →
        ¬(s.noted call).Closes side handle := by
      rintro ⟨e, hmem, hopens⟩ hcloses
      cases handle with
      | own => exact hopens
      | duplicate name =>
        have hafter := le_name_of_opens hmem hopens
        have hbefore := heffect.lt_of_closes hcloses
        have hlen := heffect.length_le
        omega
    show (performAll (s.perform call).2 calls).2.isOpen side handle = true ↔
      (_ ∨ ∃ e ∈ s.noted call :: (performAll (s.perform call).2 calls).1, e.Opens side handle) ∧
        ∀ e ∈ s.noted call :: (performAll (s.perform call).2 calls).1, ¬e.Closes side handle
    rw [ih, heffect.isOpen_iff]
    simp only [List.mem_cons, exists_eq_or_imp, forall_eq_or_imp]
    constructor
    · rintro ⟨⟨hmade, hnow⟩ | hlater, hrest⟩
      · exact ⟨hmade.imp id .inl, hnow, hrest⟩
      · exact ⟨.inr (.inr hlater), hfresh hlater, hrest⟩
    · rintro ⟨hmade, hnow, hrest⟩
      refine ⟨?_, hrest⟩
      rcases hmade with hbefore | hfirst | hlater
      · exact .inl ⟨.inl hbefore, hnow⟩
      · exact .inl ⟨.inr hfirst, hnow⟩
      · exact .inr hlater

/-- **Whatever calls are made through the handles of a pipe, it carries one stream.** What was taken, in order, is what
was given and behind it what is queued, which is no more than fits. A handle is open just if it was made and has not been
closed, and a side is in non-blocking mode just if it was put there. The next call is lawful, whichever it is: it
is refused through a closed handle and through no other, it gives nothing only at the end of the stream, and it
gets in only what fits. -/
theorem stream_lawful (calls : List Call) :
    let entries := (performAll {} calls).1
    let s := (performAll {} calls).2
    (entries.map Entry.call = calls ∧ ∀ e ∈ entries, e.Faithful) ∧
    (entries.flatMap fun e => e.outcome.given) ++ s.pipe.queue.toList = entries.flatMap Entry.taken ∧
    s.pipe.queue.toList.length ≤ Pipe.capacity ∧
    (∀ side handle, s.isOpen side handle = true ↔
      (handle = .own ∨ ∃ e ∈ entries, e.Opens side handle) ∧ ∀ e ∈ entries, ¬e.Closes side handle) ∧
    (∀ side, s.pipe.isNonblocking side = true ↔ ∃ e ∈ entries, e.Sets side) ∧
    s.Lawful := by
  intro entries s
  have hsound : s.Sound := sound_new.performAll calls
  refine ⟨performAll_noted {} calls, kept_performAll {} calls, ?_, fun side handle => ?_, fun side => ?_, hsound.lawful⟩
  · rw [ByteQueue.length_toList]
    exact hsound.fits
  · have hfresh : ({} : SharedPipe).isOpen side handle = true ↔ handle = .own := by
      cases handle with
      | own => cases side <;> exact iff_of_true rfl rfl
      | duplicate name => exact iff_of_false nofun nofun
    rw [← hfresh]
    exact isOpen_performAll {} calls side handle
  · have hfresh : ({} : SharedPipe).pipe.isNonblocking side = false := by cases side <;> rfl
    rw [isNonblocking_performAll {} calls side, hfresh]
    exact or_iff_right nofun

/-- The own read end of a pipe is closed, but a duplicate of it is left, and what is written makes the pipe full but
for two bytes. -/
def nearlyFull : List Call :=
  [.duplicate .read, .close .read, .setNonblocking .write, .write .own (List.replicate 65534 7)]

/-- Of three more bytes two get in. The own end cannot give the first of all, but the duplicate can. -/
theorem stream_lawful_shortWrite :
    let s := (performAll {} nearlyFull).2
    (∃ e s', s.perform (.writeAll [1, 2, 3]) = (.failed (.own e), s') ∧ e.isWouldBlock = true ∧
      s'.pipe.queue.toList.length = Pipe.capacity) ∧
    s.perform (.read .own 1) = (.failed (.own (.closed .read)), s) ∧
    (s.perform (.read (.duplicate 0) 1)).1 = .done (.gave [7]) := by
  intro s
  -- the bytes are too many to be computed with, so the write that brings them in is taken from the law as well
  obtain ⟨-, -, -, -, -, hbefore⟩ := stream_lawful [.duplicate .read, .close .read, .setNonblocking .write]
  have hsome : List.replicate 65534 (7 : UInt8) ≠ [] := by
    rw [ne_eq, List.replicate_eq_nil_iff]
    decide
  obtain ⟨queue, hwrite, hqueue⟩ := hbefore.takes .own _ rfl ⟨.duplicate 0, rfl⟩ hsome (by decide)
  obtain ⟨-, -, -, -, -, (hlawful : s.Lawful)⟩ := stream_lawful nearlyFull
  have hs : s = withQueue _ queue := congrArg Prod.snd hwrite
  have hbytes : queue.toList = List.replicate 65534 7 :=
    hqueue.trans (List.take_of_length_le (by rw [List.length_replicate]; decide))
  have hlen : queue.size = 65534 := by
    rw [← ByteQueue.length_toList, hbytes, List.length_replicate]
  have hroom : s.pipe.room = 2 := by
    rw [hs]
    show Pipe.capacity - queue.size = 2
    rw [hlen]
    rfl
  have hreader : s.isOpen .read (.duplicate 0) = true := by rw [hs]; rfl
  have hwriter : s.isOpen .write .own = true := by rw [hs]; rfl
  have hprompt : s.pipe.isNonblocking .write = true := by rw [hs]; rfl
  have hclosed : s.isOpen .read .own = false := by rw [hs]; rfl
  refine ⟨?_, hlawful.refuses (.read .own 1) .read .own rfl hclosed, ?_⟩
  · obtain ⟨outcome, queue', hall, -, -, hshort⟩ := hlawful.writesAll [1, 2, 3] hwriter ⟨_, hreader⟩ hprompt
    obtain ⟨e, rfl, hblock, hfull⟩ := hshort (by rw [hroom]; decide)
    exact ⟨e, _, hall, hblock, hfull⟩
  · have hqueued : s.pipe.queue.toList = List.replicate 65534 7 := by rw [hs]; exact hbytes
    obtain ⟨_, hread, -⟩ := hlawful.gives (.duplicate 0) 1 hreader (by decide) (by rw [hqueued]; exact hsome)
    rw [hread, hqueued, List.take_replicate]
    rfl

end BatchJob.SharedPipe
