import BatchJob.Pipe.Shared
import BatchJob.Proofs.Pipe.Sides

/-!
# Calls on a pipe with duplicates

A call goes through a handle to one side of the pipe (`Call.through?`). It is refused if that handle is not open, and
then nothing changes (`perform_refused`). Otherwise it does not matter which handle it is: all of them see one stream of
bytes (`perform_read`, `perform_write`).

What a call changes is the bytes in the pipe, or a mode, or who can reach a side, and no two of these at once
(`perform_effect`).
-/

namespace BatchJob.SharedPipe

variable {s s' : SharedPipe} {side : PipeEnd} {handle : Handle} {call : Call} {name n : Nat} {bytes : Bytes}

/-! ## Handles -/

/-- The side that a call is about, and the handle it goes through. A call that closes a handle goes through none, and so
does one that is to write all of no bytes. -/
def Call.through? : Call → Option (PipeEnd × Handle)
  | .read handle _ => some (.read, handle)
  | .write handle _ => some (.write, handle)
  | .writeAll bytes => if bytes = [] then none else some (.write, .own)
  | .setNonblocking side | .duplicate side => some (side, .own)
  | .close _ | .closeDuplicate _ => none

/-- How a call fails that goes through a handle that is not open. -/
def Handle.refusal : Handle → PipeEnd → Failure
  | .own, side => .own (.closed side)
  | .duplicate _, _ => .duplicate (.os .badf)

/-- How a transfer through an open handle fails. -/
def Handle.failure : Handle → PipeEnd → IoError → Failure
  | .own, .read, cause => .own (.read cause)
  | .own, .write, cause => .own (.write cause)
  | .duplicate _, _, cause => .duplicate cause

theorem isOpen_duplicate : s.isOpen side (.duplicate name) = true ↔ s.duplicates[name]? = some (some side) :=
  beq_iff_eq

theorem writeAll_through (h : (Call.writeAll bytes).through? = some (side, handle)) :
    bytes ≠ [] ∧ side = .write ∧ handle = .own := by
  by_cases hnil : bytes = []
  · rw [Call.through?, if_pos hnil] at h
    cases h
  · rw [Call.through?, if_neg hnil] at h
    cases h
    exact ⟨hnil, rfl, rfl⟩

/-- A read is the same through every open handle. -/
theorem perform_read (hopen : s.isOpen .read handle = true) (n : Nat) :
    s.perform (.read handle n) =
      (((s.pipe.fetch n).1.map .gave).mapError (handle.failure .read), { s with pipe := (s.pipe.fetch n).2 }) := by
  cases handle with
  | own =>
    simp only [perform, Pipe.read_of_open hopen]
    cases (s.pipe.fetch n).1 <;> rfl
  | duplicate name =>
    simp only [perform, hopen, if_true]
    rfl

/-- So is a write. -/
theorem perform_write (hopen : s.isOpen .write handle = true) (bytes : Bytes) :
    s.perform (.write handle bytes) =
      (((s.pipe.offer bytes).1.map .took).mapError (handle.failure .write),
        { s with pipe := (s.pipe.offer bytes).2 }) := by
  cases handle with
  | own =>
    simp only [perform, Pipe.write_of_open hopen]
    cases (s.pipe.offer bytes).1 <;> rfl
  | duplicate name =>
    simp only [perform, hopen, if_true]
    rfl

/-- A call through a handle that is not open is refused, and changes nothing. -/
theorem perform_refused (through : call.through? = some (side, handle)) (closed : s.isOpen side handle = false) :
    s.perform call = (.failed (handle.refusal side), s) := by
  cases call with
  | read handle n =>
    cases through
    cases handle with
    | own =>
      simp only [perform, Pipe.read_of_closed closed]
      rfl
    | duplicate name =>
      simp only [perform, closed]
      rfl
  | write handle bytes =>
    cases through
    cases handle with
    | own =>
      simp only [perform, Pipe.write_of_closed closed]
      rfl
    | duplicate name =>
      simp only [perform, closed]
      rfl
  | writeAll bytes =>
    obtain ⟨some, rfl, rfl⟩ := writeAll_through through
    simp only [perform, Pipe.writeAll_of_failed some (Pipe.write_of_closed closed bytes)]
    rfl
  | setNonblocking =>
    cases through
    have hclosed : s.pipe.isOpen side = false := closed
    simp only [perform, Pipe.setNonblocking, hclosed]
    rfl
  | duplicate =>
    cases through
    have hclosed : s.pipe.isOpen side = false := closed
    simp only [perform, Pipe.duplicate, hclosed]
    rfl
  | close | closeDuplicate => cases through

theorem fetch_not_refused (handle : Handle) (p : Pipe) (n : Nat) :
    ((p.fetch n).1.map Answer.gave).mapError (handle.failure .read) ≠ .failed (handle.refusal .read) := by
  rcases hfetch : p.fetch n with ⟨result, p'⟩
  cases result with
  | done | blocked => nofun
  | failed e =>
    cases Pipe.fetch_failed hfetch
    cases handle <;> nofun

theorem offer_not_refused (handle : Handle) (p : Pipe) (bytes : Bytes) :
    ((p.offer bytes).1.map Answer.took).mapError (handle.failure .write) ≠ .failed (handle.refusal .write) := by
  rcases hoffer : p.offer bytes with ⟨result, p'⟩
  cases result with
  | done | blocked => nofun
  | failed e =>
    rcases Pipe.offer_failed hoffer with rfl | rfl
    all_goals cases handle <;> nofun

/-- A call through an open handle is not refused. -/
theorem perform_admitted (through : call.through? = some (side, handle)) (hopen : s.isOpen side handle = true) :
    (s.perform call).1 ≠ .failed (handle.refusal side) := by
  cases call with
  | read handle n =>
    cases through
    rw [perform_read hopen]
    exact fetch_not_refused handle s.pipe n
  | write handle bytes =>
    cases through
    rw [perform_write hopen]
    exact offer_not_refused handle s.pipe bytes
  | writeAll bytes =>
    obtain ⟨-, rfl, rfl⟩ := writeAll_through through
    rcases hwrite : s.pipe.writeAll bytes with ⟨result, p'⟩
    simp only [perform, hwrite]
    cases result with
    | done | blocked => nofun
    | failed e =>
      obtain ⟨cause, rfl⟩ := Pipe.writeAll_failed hopen hwrite
      nofun
  | setNonblocking =>
    cases through
    have hset : s.pipe.isOpen side = true := hopen
    simp only [perform, Pipe.setNonblocking, hset, if_true]
    nofun
  | duplicate =>
    cases through
    have hset : s.pipe.isOpen side = true := hopen
    simp only [perform, Pipe.duplicate, hset, if_true]
    nofun
  | close | closeDuplicate => cases through

/-! ## What a call does -/

/-- The bytes that a call gives. -/
def Outcome.given : Outcome → Bytes
  | .done (.gave bytes) => bytes
  | _ => []

/-- How many bytes a write took. -/
def Outcome.took : Outcome → Nat
  | .done (.took n) => n
  | _ => 0

/-- The bytes that the pipe takes from a call, by the answers to its writes. -/
def taken (s : SharedPipe) : Call → Bytes
  | .write handle bytes => bytes.take (s.perform (.write handle bytes)).1.took
  | .writeAll bytes => (s.pipe.parts bytes).flatten
  | _ => []

@[simp] theorem given_gave (result : Attempt IoError Bytes) (fails : IoError → Failure) :
    Outcome.given ((result.map .gave).mapError fails) = result.given := by
  cases result <;> rfl

@[simp] theorem given_took (result : Attempt IoError Nat) (fails : IoError → Failure) :
    Outcome.given ((result.map .took).mapError fails) = [] := by
  cases result <;> rfl

@[simp] theorem took_took (result : Attempt IoError Nat) (fails : IoError → Failure) :
    Outcome.took ((result.map .took).mapError fails) = result.taken := by
  cases result <;> rfl

theorem taken_write (hopen : s.isOpen .write handle = true) (bytes : Bytes) :
    s.taken (.write handle bytes) = bytes.take (s.pipe.offer bytes).1.taken := by
  rw [taken, perform_write hopen, took_took]

theorem taken_write_refused (closed : s.isOpen .write handle = false) (bytes : Bytes) :
    s.taken (.write handle bytes) = [] := by
  have hrefused : s.perform (.write handle bytes) = (.failed (handle.refusal .write), s) := perform_refused rfl closed
  rw [taken, hrefused]
  rfl

/-- A call as it was made, with what came of it and the bytes that were taken from it. -/
structure Entry where
  call : Call
  outcome : Outcome
  taken : Bytes

/-- Notes a call. -/
def noted (s : SharedPipe) (call : Call) : Entry :=
  { call, outcome := (s.perform call).1, taken := s.taken call }

/-- What is noted as taken agrees with the answer: a write has taken as many bytes as it says, and writing all has taken
a first part of the bytes, which is all of them if it succeeds. -/
structure Entry.Faithful (e : Entry) : Prop where
  write : ∀ handle bytes, e.call = .write handle bytes → e.taken = bytes.take e.outcome.took
  writeAll : ∀ bytes, e.call = .writeAll bytes →
    e.taken <+: bytes ∧ (e.outcome = .done .finished → e.taken = bytes)
  others : (∀ handle bytes, e.call ≠ .write handle bytes) → (∀ bytes, e.call ≠ .writeAll bytes) → e.taken = []

theorem noted_faithful (s : SharedPipe) (call : Call) : (s.noted call).Faithful where
  write handle bytes hcall := by
    subst hcall
    rfl
  writeAll bytes hcall := by
    subst hcall
    obtain ⟨hfront, hall⟩ := s.pipe.parts_flatten bytes
    refine ⟨hfront, fun hdone => hall ?_⟩
    simp only [noted, perform] at hdone
    cases hresult : (s.pipe.writeAll bytes).1 with
    | done => rfl
    | failed | blocked =>
      rw [hresult] at hdone
      cases hdone
  others hwrite hall := by
    cases call with
    | write handle bytes => exact absurd rfl (hwrite handle bytes)
    | writeAll bytes => exact absurd rfl (hall bytes)
    | read | setNonblocking | duplicate | close | closeDuplicate => rfl

/-- Whether a call is to move bytes. -/
def Call.Transfers : Call → Prop
  | .read .. | .write .. | .writeAll _ => True
  | .setNonblocking _ | .duplicate _ | .close _ | .closeDuplicate _ => False

/-- What a call does to a pipe and its duplicates. -/
inductive Effect (s : SharedPipe) : Entry → SharedPipe → Prop
  | refused {call : Call} {failure : Failure} (closesNone : ∀ side, call ≠ .close side) :
      Effect s ⟨call, .failed failure, []⟩ s
  | moved {call : Call} {outcome : Outcome} {taken : Bytes} {pipe : Pipe} (transfers : call.Transfers)
      (transfer : s.pipe.Transfer taken outcome.given pipe) : Effect s ⟨call, outcome, taken⟩ { s with pipe }
  | set {side : PipeEnd} {pipe : Pipe} (set : s.pipe.setNonblocking side = .ok pipe) :
      Effect s ⟨.setNonblocking side, .done .finished, []⟩ { s with pipe }
  | opened {side : PipeEnd} {pipe : Pipe} (duplicate : s.pipe.duplicate side = .ok pipe) :
      Effect s ⟨.duplicate side, .done (.opened s.duplicates.length), []⟩
        { pipe, duplicates := s.duplicates ++ [some side] }
  | closed {side : PipeEnd} :
      Effect s ⟨.close side, .done .finished, []⟩ { s with pipe := s.pipe.close side }
  | closedDuplicate {name : Nat} {side : PipeEnd} (was : s.duplicates[name]? = some (some side)) :
      Effect s ⟨.closeDuplicate name, .done .finished, []⟩
        { pipe := s.pipe.dropDuplicate side, duplicates := s.duplicates.set name none }

/-- **What a call does, in one statement for all of them.** -/
theorem perform_effect (s : SharedPipe) (call : Call) : Effect s (s.noted call) (s.perform call).2 := by
  unfold noted
  cases call with
  | read handle n =>
    cases hopen : s.isOpen .read handle with
    | false =>
      rw [perform_refused rfl hopen]
      exact .refused nofun
    | true =>
      rw [perform_read hopen]
      refine .moved trivial ?_
      rw [given_gave]
      exact s.pipe.fetch_transfer n
  | write handle bytes =>
    cases hopen : s.isOpen .write handle with
    | false =>
      rw [perform_refused rfl hopen, taken_write_refused hopen]
      exact .refused nofun
    | true =>
      rw [perform_write hopen, taken_write hopen]
      refine .moved trivial ?_
      rw [given_took]
      exact s.pipe.offer_transfer bytes
  | writeAll bytes =>
    -- a transfer also when it is refused, for then it has no parts
    refine .moved trivial ?_
    have hgiven : (s.perform (.writeAll bytes)).1.given = [] := by
      simp only [perform]
      cases (s.pipe.writeAll bytes).1 <;> rfl
    rw [hgiven]
    exact s.pipe.writeAll_transfer bytes
  | setNonblocking side =>
    cases hset : s.pipe.setNonblocking side with
    | ok pipe =>
      simp only [perform, hset]
      exact .set hset
    | error e =>
      simp only [perform, hset]
      exact .refused nofun
  | duplicate side =>
    cases hduplicate : s.pipe.duplicate side with
    | ok pipe =>
      simp only [perform, hduplicate]
      exact .opened hduplicate
    | error e =>
      simp only [perform, hduplicate]
      exact .refused nofun
  | close side => exact .closed
  | closeDuplicate name =>
    rcases hwas : s.duplicates[name]? with _ | _ | side
    · simp only [perform, hwas]
      exact .refused nofun
    · simp only [perform, hwas]
      exact .refused nofun
    · simp only [perform, hwas]
      exact .closedDuplicate hwas

/-! ## Who can reach a side -/

/-- The pipe counts its duplicates right, and holds no more than it can. -/
structure Sound (s : SharedPipe) : Prop where
  counted : ∀ side, s.pipe.duplicatesOf side = s.duplicates.count (some side)
  fits : s.pipe.queue.size ≤ Pipe.capacity

theorem sound_new : Sound {} := by
  refine ⟨fun side => ?_, Nat.zero_le _⟩
  cases side <;> rfl

/-- Every call keeps the count right. -/
theorem Effect.sound {e : Entry} (h : Effect s e s') (sound : s.Sound) : s'.Sound := by
  cases h with
  | refused => exact sound
  | moved _ transfer =>
    refine ⟨fun side => ?_, transfer.fits sound.fits⟩
    rw [(transfer.sameEnds.sides side).2.1]
    exact sound.counted side
  | set set =>
    obtain ⟨-, hqueue, hsides⟩ := Pipe.setNonblocking_spec set
    refine ⟨fun side => ?_, ?_⟩
    · rw [(hsides side).2.1]
      exact sound.counted side
    · rw [hqueue]
      exact sound.fits
  | @opened made pipe duplicate =>
    obtain ⟨-, hqueue, hsides⟩ := Pipe.duplicate_spec duplicate
    refine ⟨fun side => ?_, ?_⟩
    · show pipe.duplicatesOf side = (s.duplicates ++ [some made]).count (some side)
      rw [(hsides side).2.1, sound.counted side, List.count_append, List.count_singleton]
      by_cases hsame : side = made
      · subst hsame
        simp
      · simp [hsame, Ne.symm hsame]
    · rw [hqueue]
      exact sound.fits
  | @closed closing =>
    obtain ⟨hqueue, hsides⟩ := s.pipe.close_spec closing
    refine ⟨fun side => ?_, ?_⟩
    · rw [(hsides side).2.1]
      exact sound.counted side
    · rw [hqueue]
      exact sound.fits
  | @closedDuplicate name closing was =>
    obtain ⟨hqueue, hsides⟩ := s.pipe.dropDuplicate_spec closing
    refine ⟨fun side => ?_, ?_⟩
    · show (s.pipe.dropDuplicate closing).duplicatesOf side = (s.duplicates.set name none).count (some side)
      obtain ⟨hlt, hget⟩ := List.getElem?_eq_some_iff.mp was
      rw [(hsides side).2.1, sound.counted side, List.count_set hlt, hget]
      by_cases hsame : side = closing
      · subst hsame
        simp
      · simp [hsame, Ne.symm hsame]
    · rw [hqueue]
      exact sound.fits

/-- Somebody can reach a side just if a handle to it is open. -/
theorem Sound.isHeld_iff (sound : s.Sound) (side : PipeEnd) :
    s.pipe.isHeld side = true ↔ ∃ handle, s.isOpen side handle = true := by
  rw [Pipe.isHeld, sound.counted side, Bool.or_eq_true, decide_eq_true_eq, List.count_pos_iff, List.mem_iff_getElem?]
  constructor
  · rintro (hown | ⟨name, hname⟩)
    · exact ⟨.own, hown⟩
    · exact ⟨.duplicate name, isOpen_duplicate.mpr hname⟩
  · rintro ⟨_ | name, hopen⟩
    · exact .inl hopen
    · exact .inr ⟨name, isOpen_duplicate.mp hopen⟩

theorem Sound.not_isHeld_iff (sound : s.Sound) (side : PipeEnd) :
    s.pipe.isHeld side = false ↔ ∀ handle, s.isOpen side handle = false := by
  rw [← Bool.not_eq_true, sound.isHeld_iff side, not_exists]
  exact forall_congr' fun handle => by rw [Bool.not_eq_true]

theorem Sound.duplicatesOf_pos (sound : s.Sound) (hopen : s.isOpen side (.duplicate name) = true) :
    0 < s.pipe.duplicatesOf side := by
  rw [sound.counted side, List.count_pos_iff]
  exact List.mem_of_getElem? (isOpen_duplicate.mp hopen)

end BatchJob.SharedPipe
