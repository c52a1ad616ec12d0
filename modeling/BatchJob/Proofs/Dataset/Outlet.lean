import Mathlib
import BatchJob.Dataset.Outlet
import BatchJob.Proofs.Dataset.Buffering

/-!
# What the device of a dataset receives

A dataset gathers small writes in its buffer, passes large ones by, and keeps what a failed write has left there for the
next call. Whatever its device does, bytes move in one direction only, from the calls through the buffer to the device
(`Passed`), and so what the device has received is made up of first parts of the writes, one of each and in their order
(`InOrder`). What carries this through a run of calls is `Kept`: what has been received and what is buffered are
together such a sequence, and what is buffered belongs to calls that have failed.

Main statement: `writes_received`.
-/

namespace BatchJob

variable {δ : Type} {offer : δ → Bytes → Except IoError Nat × δ}

/-! ## Through the buffer -/

/-- Some of the bytes that were to be received have been, from the front, and the rest is left. -/
structure Receiver.Passed (before : Receiver δ) (queued : Bytes) (after : Receiver δ) (left : Bytes) : Prop where
  kept : after.received ++ left = before.received ++ queued
  grown : before.received <+: after.received

namespace Receiver.Passed

variable {r r' r'' : Receiver δ} {queued left left' : Bytes}

theorem refl (r : Receiver δ) (queued : Bytes) : Passed r queued r queued := ⟨rfl, List.prefix_rfl⟩

theorem trans (h : Passed r queued r' left) (h' : Passed r' left r'' left') : Passed r queued r'' left' :=
  ⟨h'.kept.trans h.kept, h.grown.trans h'.grown⟩

/-- More bytes behind those that are queued stay behind what is left of them. -/
theorem behind (h : Passed r queued r' left) (more : Bytes) : Passed r (queued ++ more) r' (left ++ more) :=
  ⟨by rw [← List.append_assoc, h.kept, List.append_assoc], h.grown⟩

/-- What has been received meanwhile is a first part of what was queued. -/
theorem exists_part (h : Passed r queued r' left) :
    ∃ part, r'.received = r.received ++ part ∧ queued = part ++ left := by
  obtain ⟨part, hpart⟩ := h.grown
  refine ⟨part, hpart.symm, ?_⟩
  have hkept := h.kept
  rw [← hpart, List.append_assoc] at hkept
  exact (List.append_cancel_left hkept).symm

end Receiver.Passed

namespace Buffer

open Receiver (Passed)

variable {buffer bytes left : Bytes} {r r' : Receiver δ} {result : Except IoError Unit}

/-- An offer that is accepted leaves what was not taken. -/
theorem take_passed {n : Nat} (h : r.take offer bytes = (.ok n, r')) : Passed r bytes r' (bytes.drop n) := by
  unfold Receiver.take at h
  split at h
  next =>
    cases h
    exact ⟨by rw [List.append_assoc, List.take_append_drop], List.prefix_append _ _⟩
  next => cases h

/-- An offer that fails leaves everything. -/
theorem take_failed {e : IoError} (h : r.take offer bytes = (.error e, r')) : Passed r bytes r' bytes := by
  unfold Receiver.take at h
  split at h
  next => cases h
  next =>
    cases h
    exact ⟨rfl, List.prefix_rfl⟩

/-- Passing on leaves nothing if it succeeds. -/
theorem passOn_passed (h : passOn (Receiver.take offer) bytes r = (result, left, r')) :
    Passed r bytes r' left ∧ (result = .ok () → left = []) := by
  fun_induction passOn (Receiver.take offer) bytes r with
  | case1 =>
    cases h
    exact ⟨.refl _ _, fun _ => rfl⟩
  | case2 bytes r hsome e r₁ htake =>
    cases h
    refine ⟨take_failed htake, fun hok => ?_⟩
    cases hok
  | case3 bytes r hsome r₁ htake =>
    cases h
    refine ⟨take_passed htake, fun hok => ?_⟩
    cases hok
  | case4 bytes r hsome r₁ n htake hn hlt ih =>
    obtain ⟨hpassed, hleft⟩ := ih h
    exact ⟨(take_passed htake).trans hpassed, hleft⟩

/-- A first part of the bytes is accepted, behind what is buffered; all of them if accepting succeeds. -/
theorem accept_passed (h : accept (Receiver.take offer) buffer bytes r = (result, left, r')) :
    ∃ piece, piece <+: bytes ∧ Passed r (buffer ++ piece) r' left ∧ (result = .ok () → piece = bytes) := by
  unfold accept at h
  simp only at h
  split at h
  next =>
    cases h
    exact ⟨bytes, List.prefix_rfl, .refl _ _, fun _ => rfl⟩
  next =>
    -- what the emptying of the buffer comes to, where it is emptied at all
    rcases hmade : (if capacity - buffer.length < bytes.length then passOn (Receiver.take offer) buffer r
      else (.ok (), buffer, r)) with ⟨made, kept, r₁⟩
    have hbuffer : Passed r buffer r₁ kept := by
      split at hmade
      next => exact (passOn_passed hmade).1
      next =>
        cases hmade
        exact .refl _ _
    rw [hmade] at h
    cases made with
    | error e =>
      cases h
      exact ⟨[], List.nil_prefix, by rwa [List.append_nil], nofun⟩
    | ok =>
      simp only at h
      split at h
      next hlarge =>
        have hempty : kept = [] := by
          split at hmade
          next => exact (passOn_passed hmade).2 rfl
          next hroom =>
            cases hmade
            refine List.length_eq_zero_iff.mp ?_
            unfold capacity at hroom hlarge
            omega
        rcases hpass : passOn (Receiver.take offer) bytes r₁ with ⟨result', rest, r₂⟩
        rw [hpass] at h
        cases h
        obtain ⟨hpassed, hrest⟩ := passOn_passed hpass
        obtain ⟨piece, hreceived, hpiece⟩ := hpassed.exists_part
        -- what the device has not taken of a large write is given up
        refine ⟨piece, ⟨rest, hpiece.symm⟩, ?_, fun hok => ?_⟩
        · have hdirect : Passed r₁ piece r₂ [] := ⟨by rw [List.append_nil, hreceived], hpassed.grown⟩
          have hfirst := hbuffer.behind piece
          rw [hempty, List.nil_append] at hfirst
          rw [hempty]
          exact hfirst.trans hdirect
        · rw [hpiece, hrest hok, List.append_nil]
      next =>
        cases h
        exact ⟨bytes, List.prefix_rfl, hbuffer.behind bytes, fun _ => rfl⟩

/-- A first part of the bytes is passed on or left in the buffer, behind what was there; a write that succeeds leaves
nothing. -/
theorem writeThrough_passed (h : writeThrough (Receiver.take offer) buffer bytes r = (result, left, r')) :
    ∃ piece, piece <+: bytes ∧ Passed r (buffer ++ piece) r' left ∧ (result = .ok () → piece = bytes ∧ left = []) := by
  unfold writeThrough at h
  split at h
  next hacc =>
    cases h
    obtain ⟨piece, hpiece, hpassed, -⟩ := accept_passed hacc
    exact ⟨piece, hpiece, hpassed, nofun⟩
  next hacc =>
    obtain ⟨piece, hpiece, hpassed, hall⟩ := accept_passed hacc
    obtain ⟨hpassed', hleft⟩ := passOn_passed h
    exact ⟨piece, hpiece, hpassed.trans hpassed', fun hok => ⟨hall rfl, hleft hok⟩⟩

/-- Giving up a buffer passes on a first part of it. -/
theorem release_passed (h : release (Receiver.take offer) buffer r = (result, r')) :
    ∃ left, Passed r buffer r' left := by
  unfold release at h
  split at h
  next hpass =>
    cases h
    exact ⟨_, (passOn_passed hpass).1⟩
  next e kept r₁ hpass =>
    cases h
    -- the second attempt goes on where the first has failed
    exact ⟨_, (passOn_passed hpass).1.trans (passOn_passed rfl).1⟩

/-! ## Without the record -/

/-- Noting what is received changes nothing else. -/
theorem take_device (offer : δ → Bytes → Except IoError Nat × δ) (r : Receiver δ) (bytes : Bytes) :
    offer r.device bytes = ((r.take offer bytes).1, (r.take offer bytes).2.device) := by
  unfold Receiver.take
  split <;> simp only [*]

theorem passOn_device (bytes : Bytes) (r : Receiver δ) :
    passOn offer bytes r.device = ((passOn (Receiver.take offer) bytes r).1, (passOn (Receiver.take offer) bytes r).2.1,
      (passOn (Receiver.take offer) bytes r).2.2.device) := by
  fun_induction passOn (Receiver.take offer) bytes r with
  | case1 => rw [passOn, dif_pos rfl]
  | case2 bytes r hsome e r₁ htake =>
    rw [passOn, dif_neg hsome, take_device offer, htake]
  | case3 bytes r hsome r₁ htake =>
    rw [passOn, dif_neg hsome, take_device offer, htake]
    exact dif_pos rfl
  | case4 bytes r hsome r₁ n htake hn hlt ih =>
    rw [passOn, dif_neg hsome, take_device offer, htake]
    exact (dif_neg hn).trans ih

theorem accept_device (buffer bytes : Bytes) (r : Receiver δ) :
    accept offer buffer bytes r.device = ((accept (Receiver.take offer) buffer bytes r).1,
      (accept (Receiver.take offer) buffer bytes r).2.1, (accept (Receiver.take offer) buffer bytes r).2.2.device) := by
  unfold accept
  simp only
  split
  next => rfl
  next =>
    by_cases hfull : capacity - buffer.length < bytes.length
    · simp only [if_pos hfull, passOn_device]
      rcases passOn (Receiver.take offer) buffer r with ⟨_ | _, kept, r₁⟩
      · rfl
      · simp only
        split <;> rfl
    · simp only [if_neg hfull]
      split
      next => rw [passOn_device]
      next => rfl

theorem writeThrough_device (buffer bytes : Bytes) (r : Receiver δ) :
    writeThrough offer buffer bytes r.device = ((writeThrough (Receiver.take offer) buffer bytes r).1,
      (writeThrough (Receiver.take offer) buffer bytes r).2.1,
      (writeThrough (Receiver.take offer) buffer bytes r).2.2.device) := by
  unfold writeThrough
  rw [accept_device]
  rcases accept (Receiver.take offer) buffer bytes r with ⟨_ | _, kept, r₁⟩
  · rfl
  · exact passOn_device kept r₁

theorem release_device (buffer : Bytes) (r : Receiver δ) :
    release offer buffer r.device =
      ((release (Receiver.take offer) buffer r).1, (release (Receiver.take offer) buffer r).2.device) := by
  unfold release
  rw [passOn_device]
  rcases passOn (Receiver.take offer) buffer r with ⟨_ | _, kept, r₁⟩
  · simp only
    rw [passOn_device]
  · rfl

end Buffer

namespace Outlet

/-- What a call comes to for a dataset over a node is what it comes to for the outlet. -/
theorem perform_dataset (call : OutletCall) (o : Outlet (OpenFile × FileSystem)) :
    Dataset.perform call o.dataset =
      ((o.perform Dataset.offer call).1, (o.perform Dataset.offer call).2.dataset) := by
  obtain ⟨name, buffer, ⟨⟨file, fs⟩, received⟩⟩ := o
  cases buffer with
  | none => cases call <;> rfl
  | some buffer =>
    cases call with
    | write bytes =>
      have hsame : Buffer.writeThrough Dataset.offer buffer bytes (file, fs) = _ :=
        Buffer.writeThrough_device buffer bytes ⟨(file, fs), received⟩
      show Dataset.write bytes ⟨name, some (.writer buffer file)⟩ fs = _
      unfold Dataset.write
      simp only [hsame]
      rfl
    | close =>
      have hsame : Buffer.release Dataset.offer buffer (file, fs) = _ :=
        Buffer.release_device buffer ⟨(file, fs), received⟩
      show Dataset.close ⟨name, some (.writer buffer file)⟩ fs = _
      unfold Dataset.close
      simp only [hsame]
      rfl

/-- So it is for a run of calls. -/
theorem performAll_dataset (calls : List OutletCall) (o : Outlet (OpenFile × FileSystem)) :
    OutletCall.performAll Dataset.perform calls o.dataset =
      ((OutletCall.performAll (perform Dataset.offer) calls o).1,
        (OutletCall.performAll (perform Dataset.offer) calls o).2.dataset) := by
  induction calls generalizing o with
  | nil => rfl
  | cons call calls ih =>
    unfold OutletCall.performAll
    rw [perform_dataset]
    simp only [ih]

/-- Giving up the dataset logs what the outlet logs. -/
theorem discard_dataset (o : Outlet (OpenFile × FileSystem)) :
    o.dataset.1.discard o.dataset.2 = ((o.discard Dataset.offer).1, (o.close Dataset.offer).2.dataset.2) := by
  have hclose : o.dataset.1.close o.dataset.2 = _ := perform_dataset .close o
  unfold Dataset.discard discard
  rw [hclose]
  simp only [perform]
  rcases o.close Dataset.offer with ⟨_ | _, _⟩ <;> rfl

end Outlet

/-! ## The order of what is received -/

namespace OutletCall

/-- The bytes are made up of one first part of what each call was to write, in the order of the calls; of a call that
has succeeded it is all. -/
inductive InOrder : List (OutletCall × Except DatasetError Unit) → Bytes → Prop
  | nil : InOrder [] []
  | cons {call answer entries piece bytes} (part : piece <+: call.bytes) (whole : answer = .ok () → piece = call.bytes)
      (rest : InOrder entries bytes) : InOrder ((call, answer) :: entries) (piece ++ bytes)

/-- Every write has succeeded. -/
def AllWritten (entries : List (OutletCall × Except DatasetError Unit)) : Prop :=
  ∀ bytes answer, (write bytes, answer) ∈ entries → answer = .ok ()

/-- The answer to a call to a dataset that is not open. -/
def answerClosed (name : String) : OutletCall → Except DatasetError Unit
  | write _ => .error (.notOpen name)
  | close => .ok ()

namespace InOrder

variable {entries entries' : List (OutletCall × Except DatasetError Unit)} {bytes bytes' : Bytes}

theorem single {call : OutletCall} {answer : Except DatasetError Unit} (part : bytes <+: call.bytes)
    (whole : answer = .ok () → bytes = call.bytes) : InOrder [(call, answer)] bytes := by
  have h := cons part whole nil
  rwa [List.append_nil] at h

theorem append (h : InOrder entries bytes) (h' : InOrder entries' bytes') :
    InOrder (entries ++ entries') (bytes ++ bytes') := by
  induction h with
  | nil => exact h'
  | cons part whole _ ih =>
    rw [List.cons_append, List.append_assoc]
    exact cons part whole ih

/-- Where every call has failed, the bytes may be fewer. -/
theorem cut {part left : Bytes} (h : InOrder entries (part ++ left)) (hfailed : ∀ entry ∈ entries, entry.2 ≠ .ok ()) :
    InOrder entries part := by
  generalize hbytes : part ++ left = bytes at h
  induction h generalizing part left with
  | nil =>
    rw [(List.append_eq_nil_iff.mp hbytes).1]
    exact nil
  | @cons call answer entries piece bytes hpart hwhole hrest ih =>
    have hfailed' : ∀ entry ∈ entries, entry.2 ≠ .ok () := fun entry hentry =>
      hfailed entry (List.mem_cons_of_mem _ hentry)
    have hanswer : answer ≠ .ok () := hfailed (call, answer) List.mem_cons_self
    rcases List.append_eq_append_iff.mp hbytes with ⟨more, rfl, hmore⟩ | ⟨more, rfl, hmore⟩
    · -- the cut is in the piece of this call, and nothing is left for those that follow
      have hnone : InOrder entries [] := ih hfailed' (List.nil_append bytes)
      have h := cons ((List.prefix_append part more).trans hpart) (fun hok => absurd hok hanswer) hnone
      rwa [List.append_nil] at h
    · exact cons hpart hwhole (ih hfailed' hmore.symm)

/-- Where every write has succeeded, the bytes are all that were to be written. -/
theorem eq_flatten (h : InOrder entries bytes) (hwritten : AllWritten entries) :
    bytes = (entries.map (·.1.bytes)).flatten := by
  induction h with
  | nil => rfl
  | @cons call answer entries piece bytes hpart hwhole hrest ih =>
    have hpiece : piece = call.bytes := by
      cases call with
      | close => exact List.prefix_nil.mp hpart
      | write bytes => exact hwhole (hwritten bytes answer List.mem_cons_self)
    rw [hpiece, ih fun bytes answer hentry => hwritten bytes answer (List.mem_cons_of_mem _ hentry)]
    rfl

end InOrder

/-- The calls of a run are those that were to be made. -/
theorem performAll_calls {σ : Type} (perform : OutletCall → σ → Except DatasetError Unit × σ) (calls : List OutletCall)
    (s : σ) : (performAll perform calls s).1.map Prod.fst = calls := by
  induction calls generalizing s with
  | nil => rfl
  | cons call calls ih => exact congrArg (call :: ·) (ih _)

end OutletCall

namespace Outlet

open OutletCall (InOrder AllWritten answerClosed performAll)

variable {name : String} {device : δ} {entries : List (OutletCall × Except DatasetError Unit)} {o o' : Outlet δ}
  {answer : Except DatasetError Unit} {bytes : Bytes} {calls : List OutletCall}

/-- What has been received and what is buffered are first parts of what was to be written, in order, and what is
buffered is from calls that have failed since the last that succeeded. -/
inductive Kept (entries : List (OutletCall × Except DatasetError Unit)) (o : Outlet δ) : Prop
  | intro (settled failed : List (OutletCall × Except DatasetError Unit)) (first second : Bytes)
      (calls : entries = settled ++ failed) (received : o.receiver.received = first ++ second)
      (before : InOrder settled first) (since : InOrder failed (second ++ o.buffer.getD []))
      (failures : ∀ entry ∈ failed, entry.2 ≠ .ok ())

namespace Kept

/-- Where nothing is buffered, it is enough that what has been received is in order. -/
theorem of_empty (h : InOrder entries o.receiver.received) (hempty : o.buffer.getD [] = []) : Kept entries o := by
  refine ⟨entries, [], _, [], (List.append_nil _).symm, (List.append_nil _).symm, h, ?_, nofun⟩
  rw [hempty]
  exact .nil

/-- What is buffered comes next. -/
theorem all (h : Kept entries o) : InOrder entries (o.receiver.received ++ o.buffer.getD []) := by
  obtain ⟨settled, failed, first, second, rfl, hreceived, hbefore, hsince, -⟩ := h
  rw [hreceived, List.append_assoc]
  exact hbefore.append hsince

/-- What is received out of the buffer keeps the order, also if the rest is given up. -/
theorem received_of_passed {buffer left : Bytes} {r : Receiver δ} (h : Kept entries o)
    (hbuffer : o.buffer = some buffer) (hpassed : Receiver.Passed o.receiver buffer r left) : InOrder entries r.received := by
  obtain ⟨settled, failed, first, second, rfl, hreceived, hbefore, hsince, hfailures⟩ := h
  obtain ⟨part, hpart, rfl⟩ := hpassed.exists_part
  rw [hbuffer, Option.getD_some, ← List.append_assoc] at hsince
  rw [hpart, hreceived, List.append_assoc]
  exact hbefore.append (hsince.cut hfailures)

/-- What has been received is in order. -/
theorem inOrder (h : Kept entries o) : InOrder entries o.receiver.received := by
  cases hbuffer : o.buffer with
  | none =>
    have hall := h.all
    rwa [hbuffer, Option.getD_none, List.append_nil] at hall
  | some buffer => exact h.received_of_passed hbuffer (.refl _ _)

/-- A call that takes nothing from its bytes and leaves nothing buffered. -/
theorem concat_of_empty {call : OutletCall} (h : InOrder entries o.receiver.received) (hempty : o.buffer.getD [] = [])
    (hanswer : answer = .ok () → call.bytes = []) : Kept (entries ++ [(call, answer)]) o := by
  have hnext := h.append (.single List.nil_prefix fun hok => (hanswer hok).symm)
  rw [List.append_nil] at hnext
  exact of_empty hnext hempty

theorem write (h : Kept entries o) (hwrite : o.write offer bytes = (answer, o')) :
    Kept (entries ++ [(.write bytes, answer)]) o' := by
  unfold Outlet.write at hwrite
  split at hwrite
  next hclosed =>
    cases hwrite
    exact concat_of_empty h.inOrder (by rw [hclosed]; rfl) nofun
  next buffer hbuffer =>
    rcases hthrough : Buffer.writeThrough (Receiver.take offer) buffer bytes o.receiver with ⟨result, left, r⟩
    rw [hthrough] at hwrite
    cases hwrite
    obtain ⟨piece, hpiece, hpassed, hdone⟩ := Buffer.writeThrough_passed hthrough
    cases result with
    | ok =>
      -- all that was held back has been received, and so these bytes are the last
      obtain ⟨rfl, rfl⟩ := hdone rfl
      have hreceived : r.received = o.receiver.received ++ buffer ++ piece := by
        rw [List.append_assoc, ← hpassed.kept, List.append_nil]
      have hall := h.all
      rw [hbuffer, Option.getD_some] at hall
      refine of_empty ?_ rfl
      show InOrder _ r.received
      rw [hreceived]
      have hlast : InOrder [(.write piece, .ok ())] piece := .single hpiece fun _ => rfl
      exact hall.append hlast
    | error e =>
      -- the calls since the last that succeeded are one more, and share what is still buffered
      obtain ⟨settled, failed, first, second, rfl, hreceived, hbefore, hsince, hfailures⟩ := h
      obtain ⟨part, hpart, hleft⟩ := hpassed.exists_part
      have hlast : InOrder [(.write bytes, .error (.write o.name e))] piece := .single hpiece nofun
      have hnext := hsince.append hlast
      rw [hbuffer, Option.getD_some, List.append_assoc, hleft, ← List.append_assoc] at hnext
      refine ⟨settled, failed ++ [_], first, second ++ part, List.append_assoc .., ?_, hbefore, hnext, ?_⟩
      · rw [← List.append_assoc, ← hreceived, ← hpart]
      · intro entry hentry
        rcases List.mem_append.mp hentry with hentry | hentry
        · exact hfailures entry hentry
        · cases List.mem_singleton.mp hentry
          exact nofun

theorem close (h : Kept entries o) (hclose : o.close offer = (answer, o')) :
    Kept (entries ++ [(.close, answer)]) o' := by
  unfold Outlet.close at hclose
  split at hclose
  next hclosed =>
    cases hclose
    exact concat_of_empty h.inOrder (by rw [hclosed]; rfl) fun _ => rfl
  next buffer hbuffer =>
    cases hclose
    obtain ⟨left, hpassed⟩ := Buffer.release_passed (rfl : Buffer.release (Receiver.take offer) buffer o.receiver = _)
    exact concat_of_empty (h.received_of_passed hbuffer hpassed) rfl fun _ => rfl

theorem perform {call : OutletCall} (h : Kept entries o) (hperform : o.perform offer call = (answer, o')) :
    Kept (entries ++ [(call, answer)]) o' := by
  cases call with
  | write bytes => exact h.write hperform
  | close => exact h.close hperform

/-- A whole run keeps the order. -/
theorem run (h : Kept entries o) (calls : List OutletCall) :
    Kept (entries ++ (performAll (Outlet.perform offer) calls o).1) (performAll (Outlet.perform offer) calls o).2 := by
  -- the entries of the calls made so far grow at their end, those of the calls to come at their start
  induction calls generalizing entries o with
  | nil =>
    rw [performAll, List.append_nil]
    exact h
  | cons call calls ih =>
    have hrest := ih (h.perform (rfl : o.perform offer call = _))
    rwa [List.append_assoc] at hrest

/-- Where every write has succeeded, nothing is buffered, and all has been received. -/
theorem eq_flatten (h : Kept entries o) (hwritten : AllWritten entries) :
    o.receiver.received = (entries.map (·.1.bytes)).flatten ∧ o.buffer.getD [] = [] := by
  have hreceived := h.inOrder.eq_flatten hwritten
  refine ⟨hreceived, ?_⟩
  -- with what is buffered it is the same bytes, so nothing is buffered
  have hall := h.all.eq_flatten hwritten
  rw [← hreceived] at hall
  exact List.append_right_eq_self.mp hall

end Kept

theorem opened_kept (name : String) (device : δ) : Kept [] (opened name device) := .of_empty .nil rfl

/-! ## Calls that succeed, and calls to a dataset that is closed -/

/-- A write succeeds only when nothing is held back any more. -/
theorem write_ok (h : o.write offer bytes = (.ok (), o')) :
    ∃ buffered, o.buffer = some buffered ∧ o'.buffer = some [] ∧
      o'.receiver.received = o.receiver.received ++ (buffered ++ bytes) := by
  unfold write at h
  split at h
  next => cases h
  next buffer hbuffer =>
    rcases hthrough : Buffer.writeThrough (Receiver.take offer) buffer bytes o.receiver with ⟨_ | _, left, r⟩
    · rw [hthrough] at h
      cases h
    · obtain ⟨piece, -, hpassed, hdone⟩ := Buffer.writeThrough_passed hthrough
      obtain ⟨rfl, rfl⟩ := hdone rfl
      rw [hthrough] at h
      cases h
      refine ⟨buffer, hbuffer, rfl, ?_⟩
      show r.received = _
      rw [← hpassed.kept, List.append_nil]

/-- A close that finds nothing buffered succeeds and adds nothing. -/
theorem close_of_empty (offer : δ → Bytes → Except IoError Nat × δ) (hempty : o.buffer.getD [] = []) :
    o.close offer = (.ok (), { o with buffer := none }) := by
  obtain ⟨name, _ | buffer, receiver⟩ := o
  · rfl
  · obtain rfl : buffer = [] := hempty
    simp only [close, Buffer.release_nil]
    rfl

theorem close_buffer (offer : δ → Bytes → Except IoError Nat × δ) (o : Outlet δ) : (o.close offer).2.buffer = none := by
  unfold close
  split
  next hclosed => exact hclosed
  next => rfl

theorem perform_name (offer : δ → Bytes → Except IoError Nat × δ) (call : OutletCall) (o : Outlet δ) :
    (o.perform offer call).2.name = o.name := by
  cases call <;> unfold perform <;> simp only [write, close] <;> split <;> rfl

theorem performAll_name (offer : δ → Bytes → Except IoError Nat × δ) (calls : List OutletCall) (o : Outlet δ) :
    (performAll (perform offer) calls o).2.name = o.name := by
  induction calls generalizing o with
  | nil => rfl
  | cons call calls ih => exact (ih _).trans (perform_name offer call o)

/-- Calls to a dataset that is not open change nothing. -/
theorem performAll_closed (offer : δ → Bytes → Except IoError Nat × δ) (calls : List OutletCall)
    (hclosed : o.buffer = none) :
    performAll (perform offer) calls o = (calls.map fun call => (call, answerClosed o.name call), o) := by
  induction calls with
  | nil => rfl
  | cons call calls ih =>
    have hcall : o.perform offer call = (answerClosed o.name call, o) := by
      cases call <;> simp only [perform, write, close, hclosed, answerClosed]
    unfold performAll
    simp only [hcall, ih, List.map_cons]

theorem discard_of_empty (offer : δ → Bytes → Except IoError Nat × δ) (hempty : o.buffer.getD [] = []) :
    o.discard offer = ([], o.receiver) := by
  unfold discard
  rw [close_of_empty offer hempty]

/-- Giving up the dataset keeps the order. -/
theorem Kept.discard (h : Kept entries o) : InOrder entries (o.discard offer).2.received := by
  cases hbuffer : o.buffer with
  | none =>
    rw [discard_of_empty offer (by rw [hbuffer]; rfl)]
    exact h.inOrder
  | some buffer =>
    obtain ⟨left, hpassed⟩ := Buffer.release_passed (rfl : Buffer.release (Receiver.take offer) buffer o.receiver = _)
    have hreceiver : (o.discard offer).2 = (Buffer.release (Receiver.take offer) buffer o.receiver).2 := by
      unfold Outlet.discard Outlet.close
      simp only [hbuffer]
      rcases Buffer.release (Receiver.take offer) buffer o.receiver with ⟨_ | _, _⟩ <;> rfl
    rw [hreceiver]
    exact h.received_of_passed hbuffer hpassed

/-! ## Every run -/

/-- Whatever the device takes of what it is offered, and whenever it fails, it receives first parts of the writes in
their order, one of each, also when the dataset is given up at the end. A write that succeeds leaves nothing buffered;
its bytes have come after all that was held back. If all have succeeded, the device has received just what was to be
written, and a close adds nothing. A dataset that was closed stays so, whatever the close has answered. A dataset over a
node of a file system does what the outlet with that device does. -/
theorem writes_received (offer : δ → Bytes → Except IoError Nat × δ) (name : String) (device : δ)
    (calls : List OutletCall) :
    let ran := performAll (perform offer) calls (opened name device)
    let closed := (ran.2.close offer).2
    (ran.1.map Prod.fst = calls ∧ InOrder ran.1 ran.2.receiver.received ∧
      InOrder ran.1 (ran.2.discard offer).2.received) ∧
    (∀ bytes after, ran.2.write offer bytes = (.ok (), after) →
      ∃ buffered, ran.2.buffer = some buffered ∧ after.buffer = some [] ∧
        after.receiver.received = ran.2.receiver.received ++ (buffered ++ bytes)) ∧
    (AllWritten ran.1 →
      ran.2.receiver.received = (calls.map OutletCall.bytes).flatten ∧
      ran.2.close offer = (.ok (), closed) ∧ closed.receiver = ran.2.receiver ∧
      ran.2.discard offer = ([], ran.2.receiver)) ∧
    (closed.buffer = none ∧ closed.discard offer = ([], closed.receiver) ∧
      ∀ later, performAll (perform offer) later closed =
        (later.map fun call => (call, answerClosed name call), closed)) ∧
    ∀ file fs,
      let ran := performAll (perform Dataset.offer) calls (opened name (file, fs))
      performAll Dataset.perform calls (Dataset.ofFile name file .write, fs) = (ran.1, ran.2.dataset) ∧
      ran.2.dataset.1.discard ran.2.dataset.2 =
        ((ran.2.discard Dataset.offer).1, (ran.2.close Dataset.offer).2.dataset.2) := by
  intro ran closed
  have hcalls : ran.1.map Prod.fst = calls := OutletCall.performAll_calls _ calls _
  have hkept : Kept ran.1 ran.2 := (opened_kept name device).run calls
  have hclosed : closed.buffer = none := close_buffer offer ran.2
  have hname : closed.name = name := (perform_name offer .close ran.2).trans (performAll_name offer calls _)
  refine ⟨⟨hcalls, hkept.inOrder, hkept.discard⟩, fun _ _ => write_ok, fun hwritten => ?_, ⟨hclosed, ?_, ?_⟩, ?_⟩
  · obtain ⟨hreceived, hempty⟩ := hkept.eq_flatten hwritten
    have hbytes : ran.1.map (·.1.bytes) = calls.map OutletCall.bytes := by
      rw [← hcalls, List.map_map]
      rfl
    have hclose := close_of_empty offer hempty
    refine ⟨hreceived.trans (congrArg _ hbytes), ?_, ?_, discard_of_empty offer hempty⟩
    · show ran.2.close offer = (.ok (), (ran.2.close offer).2)
      rw [hclose]
    · show (ran.2.close offer).2.receiver = ran.2.receiver
      rw [hclose]
  · exact discard_of_empty offer (by rw [hclosed]; rfl)
  · intro later
    rw [performAll_closed offer later hclosed, hname]
  · intro file fs
    exact ⟨performAll_dataset calls (opened name (file, fs)), discard_dataset _⟩

/-- A device that answers offers as it was told to, and after that takes all of them. -/
def scripted (answers : List (Except IoError Nat)) (bytes : Bytes) : Except IoError Nat × List (Except IoError Nat) :=
  match answers with
  | [] => (.ok bytes.length, [])
  | answer :: answers => (answer, answers)

/-- The device takes two bytes and fails, and the next write brings the third before its own; it takes two bytes and
then the third, and the write succeeds. -/
theorem writes_received_retried :
    (let o : Outlet _ := ⟨"OUT", some [3], ⟨[.ok 1], [1, 2]⟩⟩
      let failed := (OutletCall.write [1, 2, 3], Except.error (.write "OUT" (.os .io)))
      performAll (perform scripted) [.write [1, 2, 3]] (opened "OUT" [.ok 2, .error (.os .io), .ok 1]) = ([failed], o) ∧
      InOrder [failed] [1, 2] ∧ InOrder [failed] [1, 2, 3] ∧
      ∃ after, o.write scripted [4, 5] = (.ok (), after) ∧ after.receiver.received = [1, 2, 3, 4, 5]) ∧
    AllWritten [(.write [1, 2, 3], .ok ())] ∧
    (performAll (perform scripted) [.write [1, 2, 3]] (opened "OUT" [.ok 2])).2.receiver.received = [1, 2, 3] := by
  have hfailed : performAll (perform scripted) [.write [1, 2, 3]] (opened "OUT" [.ok 2, .error (.os .io), .ok 1]) =
      ([(.write [1, 2, 3], .error (.write "OUT" (.os .io)))], ⟨"OUT", some [3], ⟨[.ok 1], [1, 2]⟩⟩) := by cbv
  have hretried : write scripted [4, 5] ⟨"OUT", some [3], ⟨[.ok 1], [1, 2]⟩⟩ =
      (.ok (), ⟨"OUT", some [], ⟨[], [1, 2, 3, 4, 5]⟩⟩) := by cbv
  have hdiscard : discard scripted ⟨"OUT", some [3], ⟨[.ok 1], [1, 2]⟩⟩ = ([], ⟨[], [1, 2, 3]⟩) := by cbv
  have hwhole : performAll (perform scripted) [.write [1, 2, 3]] (opened "OUT" [.ok 2]) =
      ([(.write [1, 2, 3], .ok ())], ⟨"OUT", some [], ⟨[], [1, 2, 3]⟩⟩) := by cbv
  have hwritten : AllWritten [(.write [1, 2, 3], .ok ())] := by
    intro bytes answer h
    cases List.mem_singleton.mp h
    rfl
  obtain ⟨⟨-, hreceived, hlater⟩, hnext, -⟩ :=
    writes_received scripted "OUT" [.ok 2, .error (.os .io), .ok 1] [.write [1, 2, 3]]
  obtain ⟨-, -, hall, -⟩ := writes_received scripted "OUT" [.ok 2] [.write [1, 2, 3]]
  rw [hfailed] at hreceived hlater hnext
  rw [hdiscard] at hlater
  obtain ⟨buffered, hbuffered, -, hafter⟩ := hnext _ _ hretried
  cases hbuffered
  exact ⟨⟨hfailed, hreceived, hlater, _, hretried, hafter⟩, hwritten, (hall (by rwa [hwhole])).1⟩

end Outlet

end BatchJob
