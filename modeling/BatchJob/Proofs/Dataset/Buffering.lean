import BatchJob.Dataset.Buffer

/-!
# What passes through a buffer

Buffers neither lose nor repeat nor reorder bytes, whatever the device behind them takes or gives at a call.
A device is known by a relation `Has` between its states and the bytes it has taken so far, of which one
offer adds a prefix of the bytes it was offered (`Takes`), or by a relation between its states and the bytes
it still has to give, of which one call gives a first part (`Gives`).

A write that succeeds has passed on all it was given and all that was in the buffer before
(`writeThrough_ok`); a read gives the next bytes of what is buffered and what the device has left
(`read_next`).
-/

namespace BatchJob.Buffer

variable {δ : Type}

/-! ## Writing -/

section Writing

variable {offer : δ → Bytes → Except IoError Nat × δ} {P : δ → Prop} {Has : δ → Bytes → Prop}

/-- What every offer keeps, passing on keeps. -/
theorem passOn_keeps (keep : ∀ d bytes, P d → P (offer d bytes).2) (bytes : Bytes) (d : δ) (h : P d) :
    P (passOn offer bytes d).2.2 := by
  fun_induction passOn offer bytes d with
  | case1 => exact h
  | case2 bytes d hsome e d' hoffer =>
    have hkeep := keep d bytes h
    rw [hoffer] at hkeep
    exact hkeep
  | case3 bytes d hsome d' hoffer =>
    have hkeep := keep d bytes h
    rw [hoffer] at hkeep
    exact hkeep
  | case4 bytes d hsome d' n hoffer hn hlt ih =>
    have hkeep := keep d bytes h
    rw [hoffer] at hkeep
    exact ih hkeep

theorem accept_keeps (keep : ∀ d bytes, P d → P (offer d bytes).2) (buffer bytes : Bytes) (d : δ) (h : P d) :
    P (accept offer buffer bytes d).2.2 := by
  unfold accept
  simp only
  split
  next => exact h
  next =>
    -- the buffer is emptied first when the bytes do not fit behind it
    have hmade : P (if capacity - buffer.length < bytes.length then passOn offer buffer d
        else (.ok (), buffer, d)).2.2 := by
      split
      next => exact passOn_keeps keep buffer d h
      next => exact h
    split
    next => exact hmade
    next =>
      split
      next => exact passOn_keeps keep bytes _ hmade
      next => exact hmade

theorem writeThrough_keeps (keep : ∀ d bytes, P d → P (offer d bytes).2) (buffer bytes : Bytes) (d : δ)
    (h : P d) : P (writeThrough offer buffer bytes d).2.2 := by
  have haccept := accept_keeps keep buffer bytes d h
  unfold writeThrough
  split
  next hacc =>
    rw [hacc] at haccept
    exact haccept
  next hacc =>
    rw [hacc] at haccept
    exact passOn_keeps keep _ _ haccept

theorem release_keeps (keep : ∀ d bytes, P d → P (offer d bytes).2) (buffer : Bytes) (d : δ) (h : P d) :
    P (release offer buffer d).2 := by
  have hpass := passOn_keeps keep buffer d h
  unfold release
  split
  next hok =>
    rw [hok] at hpass
    exact hpass
  next hfail =>
    rw [hfail] at hpass
    exact passOn_keeps keep _ _ hpass

/-- An offer that is accepted adds a prefix of what was offered to what the device has. -/
def Takes (offer : δ → Bytes → Except IoError Nat × δ) (Has : δ → Bytes → Prop) : Prop :=
  ∀ (d d' : δ) (content bytes : Bytes) (n : Nat), Has d content → offer d bytes = (.ok n, d') →
    Has d' (content ++ bytes.take n)

/-- Passing on succeeds only when the device has taken everything. -/
theorem passOn_ok (law : Takes offer Has) {content bytes left : Bytes} {d d' : δ} (h : Has d content)
    (ok : passOn offer bytes d = (.ok (), left, d')) : left = [] ∧ Has d' (content ++ bytes) := by
  fun_induction passOn offer bytes d generalizing content with
  | case1 d =>
    cases ok
    exact ⟨rfl, by rwa [List.append_nil]⟩
  | case2 => cases ok
  | case3 => cases ok
  | case4 bytes d hsome d' n hoffer hn hlt ih =>
    obtain ⟨hleft, hhas⟩ := ih (law _ _ _ _ _ h hoffer) ok
    rw [List.append_assoc, List.take_append_drop] at hhas
    exact ⟨hleft, hhas⟩

/-- Accepted bytes are in the device or in the buffer, behind what was there. -/
theorem accept_ok (law : Takes offer Has) {content buffer bytes left : Bytes} {d d' : δ} (h : Has d content)
    (ok : accept offer buffer bytes d = (.ok (), left, d')) :
    ∃ taken, Has d' (content ++ taken) ∧ taken ++ left = buffer ++ bytes := by
  unfold accept at ok
  simp only at ok
  split at ok
  next =>
    cases ok
    exact ⟨[], by rwa [List.append_nil], rfl⟩
  next =>
    by_cases hfull : capacity - buffer.length < bytes.length
    · rw [if_pos hfull] at ok
      rcases hpass : passOn offer buffer d with ⟨result, left', d''⟩
      rw [hpass] at ok
      cases result with
      | error e => cases ok
      | ok =>
        obtain ⟨rfl, hhas⟩ := passOn_ok law h hpass
        simp only at ok
        split at ok
        next =>
          rcases hpass' : passOn offer bytes d'' with ⟨result, left', d''⟩
          rw [hpass'] at ok
          cases ok
          obtain ⟨-, hhas'⟩ := passOn_ok law hhas hpass'
          exact ⟨buffer ++ bytes, by rwa [← List.append_assoc], List.append_nil _⟩
        next =>
          cases ok
          exact ⟨buffer, hhas, rfl⟩
    · rw [if_neg hfull] at ok
      simp only at ok
      split at ok
      next hlarge =>
        -- bytes that fill an empty buffer go past it
        have hnil : buffer = [] := List.length_eq_zero_iff.mp (by
          unfold capacity at hfull hlarge
          omega)
        rcases hpass : passOn offer bytes d with ⟨result, left', d''⟩
        rw [hpass] at ok
        cases ok
        obtain ⟨-, hhas⟩ := passOn_ok law h hpass
        exact ⟨bytes, hhas, by rw [hnil, List.append_nil, List.nil_append]⟩
      next =>
        cases ok
        exact ⟨[], by rwa [List.append_nil], rfl⟩

/-- **A write that succeeds leaves nothing in the buffer and everything in the device.** -/
theorem writeThrough_ok (law : Takes offer Has) {content buffer bytes left : Bytes} {d d' : δ}
    (h : Has d content) (ok : writeThrough offer buffer bytes d = (.ok (), left, d')) :
    left = [] ∧ Has d' (content ++ (buffer ++ bytes)) := by
  unfold writeThrough at ok
  split at ok
  next => cases ok
  next hacc =>
    obtain ⟨taken, hhas, hbytes⟩ := accept_ok law h hacc
    obtain ⟨hleft, hall⟩ := passOn_ok law hhas ok
    rw [List.append_assoc, hbytes] at hall
    exact ⟨hleft, hall⟩

/-- There is nothing to give up in an empty buffer. -/
theorem release_nil (offer : δ → Bytes → Except IoError Nat × δ) (d : δ) : release offer [] d = (.ok (), d) := by
  unfold release passOn
  rfl

end Writing

/-! ## Reading -/

section Reading

variable {fetch : δ → Nat → Attempt IoError Bytes × δ} {P : δ → Prop} {Left : δ → Bytes → Prop}

/-- What every call of the device keeps, a read keeps. -/
theorem read_keeps (keep : ∀ d n, P d → P (fetch d n).2) (buffer : Bytes) (n : Nat) (d : δ) (h : P d) :
    P (read fetch buffer n d).2.2 := by
  unfold read
  split
  next =>
    split
    next => exact keep d n h
    next =>
      have hkeep := keep d capacity h
      split
      next hfetch =>
        rw [hfetch] at hkeep
        exact hkeep
      next hfetch =>
        rw [hfetch] at hkeep
        exact hkeep
      next hfetch =>
        rw [hfetch] at hkeep
        exact hkeep
  next => exact h

/-- A read gives no more bytes than were asked for, if the device does so. -/
theorem read_length (short : ∀ {d n bytes d'}, fetch d n = (.done bytes, d') → bytes.length ≤ n)
    {buffer bytes : Bytes} {n : Nat} {d : δ} {rest : Bytes × δ}
    (h : read fetch buffer n d = (.done bytes, rest)) : bytes.length ≤ n := by
  unfold read at h
  split at h
  next =>
    split at h
    next =>
      rcases hfetch : fetch d n with ⟨result, d'⟩
      rw [hfetch] at h
      cases h
      exact short hfetch
    next =>
      split at h
      next =>
        cases h
        exact List.length_take_le _ _
      next => cases h
      next => cases h
  next =>
    cases h
    exact List.length_take_le _ _

/-- A call of the device gives a first part of what it has left, and no byte only when it has none left. -/
def Gives (fetch : δ → Nat → Attempt IoError Bytes × δ) (Left : δ → Bytes → Prop) : Prop :=
  ∀ (d d' : δ) (content bytes : Bytes) (n : Nat), 0 < n → Left d content → fetch d n = (.done bytes, d') →
    ∃ more, content = bytes ++ more ∧ Left d' more ∧ (bytes = [] → content = [])

/-- A read gives the next bytes, and no byte only when there are none. -/
theorem read_next (law : Gives fetch Left) {content buffer buffer' bytes : Bytes} {d d' : δ} {n : Nat}
    (hn : 0 < n) (h : Left d content) (done : read fetch buffer n d = (.done bytes, buffer', d')) :
    ∃ more, buffer ++ content = bytes ++ (buffer' ++ more) ∧ Left d' more ∧
      (bytes = [] → buffer ++ content = []) := by
  unfold read at done
  split at done
  next hempty =>
    have hnil : buffer = [] := List.isEmpty_iff.mp hempty
    subst hnil
    split at done
    next =>
      rcases hfetch : fetch d n with ⟨result, d''⟩
      rw [hfetch] at done
      cases done
      exact law _ _ _ _ _ hn h hfetch
    next =>
      split at done
      next filled d'' hfetch =>
        cases done
        obtain ⟨more, hcontent, hleft, hend⟩ := law _ _ _ _ _ (by decide) h hfetch
        refine ⟨more, ?_, hleft, fun hnone => hend ?_⟩
        · rw [List.nil_append, hcontent, ← List.append_assoc, List.take_append_drop]
        · exact (List.take_eq_nil_iff.mp hnone).resolve_left (Nat.ne_of_gt hn)
      next => cases done
      next => cases done
  next hsome =>
    cases done
    refine ⟨content, ?_, h, fun hnone => ?_⟩
    · rw [← List.append_assoc, List.take_append_drop]
    · rw [(List.take_eq_nil_iff.mp hnone).resolve_left (Nat.ne_of_gt hn)] at hsome
      exact absurd rfl hsome

end Reading

end BatchJob.Buffer
