import BatchJob.ExitRecord

/-!
# The exit record gives back what was recorded

The two halves of the word do not overlap, so that packing loses nothing (`unpack_pack`), and they make up the
whole word (`pack_unpack`). A signal is encoded as a negative number and an exit code as itself, so that a status
that a child can end with is recovered from its encoding; an exit code that is negative all the same is taken for
the signal with the negated number (`decode_encode_iff`). Of children that are recorded one after the other, the
last one stays (`recordAll_eq`), and what is on record about it says nothing about any other.

Main statement: `last_recorded_reads_back`.
-/

namespace BatchJob

/-! ## The encoding of a status -/

namespace ChildStatus

/-- A status that a child can end with: an exit code is never negative. -/
def IsReal : ChildStatus → Prop
  | .exited code => 0 ≤ code
  | .signaled _ => True

/-- What a status reads back as. -/
inductive ReadsBack : ChildStatus → ChildStatus → Prop
  /-- A status that a child can end with is read back as it is. -/
  | same {status : ChildStatus} (real : status.IsReal) : ReadsBack status status
  /-- A negative exit code is read back as the signal with the negated number, where negation wraps. -/
  | negated {code : Int32} {signal : Signal} (negative : code < 0) (number : (-code).toInt = signal.number) :
      ReadsBack (.exited code) (.signaled signal)

/-- A status is recovered from its encoding. -/
theorem decode_encode {status : ChildStatus} (real : status.IsReal) : decode? status.encode = some status := by
  cases status with
  | exited code => exact if_pos real
  | signaled signal => cases signal <;> rfl

theorem decode_negative {code : Int32} (negative : code < 0) :
    decode? code = (Signal.ofNumber? (-code).toInt).map .signaled :=
  if_neg (Int32.not_le.mpr negative)

/-- An encoding stands for what its status reads back as, and for nothing else. -/
theorem decode_encode_iff {status read : ChildStatus} :
    decode? status.encode = some read ↔ status.ReadsBack read := by
  constructor
  · intro h
    by_cases hreal : status.IsReal
    · cases (decode_encode hreal).symm.trans h
      exact .same hreal
    · cases status with
      | signaled signal => exact absurd trivial hreal
      | exited code =>
        have hnegative : code < 0 := Int32.not_le.mp hreal
        have hsignal : (Signal.ofNumber? (-code).toInt).map signaled = some read :=
          (decode_negative hnegative).symm.trans h
        obtain ⟨signal, hnumber, rfl⟩ := Option.map_eq_some_iff.mp hsignal
        exact .negated hnegative (Signal.ofNumber?_eq_some_iff.mp hnumber)
  · intro h
    cases h with
    | same hreal => exact decode_encode hreal
    | @negated code signal hnegative hnumber =>
      show decode? code = _
      rw [decode_negative hnegative, Signal.ofNumber?_eq_some_iff.mpr hnumber]
      rfl

end ChildStatus

/-! ## The two halves of the word -/

namespace ExitRecord

/-- The high half of a packed word is the number of the child: the shift drops the low half. -/
theorem high_half (pid encoded : BitVec 32) :
    (((pid.setWidth 64 <<< 32) ||| encoded.setWidth 64) >>> 32).setWidth 32 = pid := by
  ext i hi
  simp only [BitVec.getElem_setWidth, BitVec.getLsbD_ushiftRight, BitVec.getLsbD_or, BitVec.getLsbD_shiftLeft,
    BitVec.getLsbD_setWidth]
  have hword : 32 + i < 64 := by omega
  have hhigh : ¬ 32 + i < 32 := by omega
  have hwide : i < 64 := by omega
  rw [BitVec.getLsbD_of_ge encoded (32 + i) (by omega)]
  simp [hi, hword, hhigh, hwide]

/-- The low half of a packed word is the encoded status: the number of the child was shifted out of it. -/
theorem low_half (pid encoded : BitVec 32) :
    ((pid.setWidth 64 <<< 32) ||| encoded.setWidth 64).setWidth 32 = encoded := by
  ext i hi
  simp only [BitVec.getElem_setWidth, BitVec.getLsbD_or, BitVec.getLsbD_shiftLeft, BitVec.getLsbD_setWidth]
  have hwide : i < 64 := by omega
  simp [hi, hwide]

/-- The two halves of a word make it up. -/
theorem halves (word : BitVec 64) :
    (((word >>> 32).setWidth 32).setWidth 64 <<< 32) ||| (word.setWidth 32).setWidth 64 = word := by
  ext i hi
  simp only [BitVec.getElem_or, BitVec.getElem_shiftLeft, BitVec.getElem_setWidth, BitVec.getLsbD_setWidth,
    BitVec.getLsbD_ushiftRight]
  by_cases hlow : i < 32
  · simp [hlow, BitVec.getLsbD_eq_getElem hi]
  · have hhalf : i - 32 < 32 := by omega
    have hback : 32 + (i - 32) = i := by omega
    simp [hlow, hhalf, hback, BitVec.getLsbD_eq_getElem hi]

/-- **Packing loses nothing.** -/
theorem unpack_pack (pid : Pid) (encoded : Int32) : unpack (pack pid encoded) = (pid, encoded) := by
  have hhigh : (pack pid encoded >>> 32).toUInt32 = pid.toUInt32 :=
    UInt32.toBitVec_inj.mp (high_half pid.toUInt32.toBitVec encoded.toUInt32.toBitVec)
  have hlow : (pack pid encoded).toUInt32 = encoded.toUInt32 :=
    UInt32.toBitVec_inj.mp (low_half pid.toUInt32.toBitVec encoded.toUInt32.toBitVec)
  unfold unpack
  rw [hhigh, hlow]
  rfl

/-- No word is left out: each one is the packing of its halves. -/
theorem pack_unpack (word : UInt64) : pack (unpack word).1 (unpack word).2 = word :=
  UInt64.toBitVec_inj.mp (halves word.toBitVec)

/-! ## Children that are recorded one after the other -/

/-- Nothing is found before a child was recorded. -/
theorem lookup_empty (pid : Pid) : lookup {} pid = none :=
  rfl

/-- What is found after a child was recorded. -/
theorem lookup_record_eq (r : ExitRecord) (last pid : Pid) (status : ChildStatus) :
    (r.record last status).lookup pid =
      if last = 0 ∨ last ≠ pid then none else ChildStatus.decode? status.encode := by
  unfold lookup record
  rw [unpack_pack]

/-- **The status that was recorded last is found under the number of its child.** -/
theorem lookup_record (r : ExitRecord) {pid : Pid} {status : ChildStatus} (nonzero : pid ≠ 0) (real : status.IsReal) :
    (r.record pid status).lookup pid = some status := by
  rw [lookup_record_eq, if_neg (not_or.mpr ⟨nonzero, fun h => h rfl⟩), ChildStatus.decode_encode real]

/-- What is on record about one child says nothing about another. -/
theorem lookup_record_ne (r : ExitRecord) {pid other : Pid} (status : ChildStatus) (ne : other ≠ pid) :
    (r.record other status).lookup pid = none := by
  rw [lookup_record_eq, if_pos (.inr ne)]

/-- Of children that are recorded one after the other, the last one stays. -/
theorem recordAll_eq (r : ExitRecord) (children : List (Pid × ChildStatus)) :
    r.recordAll children =
      match children.getLast? with
      | some (pid, status) => r.record pid status
      | none => r := by
  unfold recordAll
  rcases List.eq_nil_or_concat children with rfl | ⟨earlier, child, rfl⟩
  · rfl
  · simp only [List.concat_eq_append, List.foldl_append, List.foldl_cons, List.foldl_nil, List.getLast?_concat]
    rfl

theorem recordAll_append (r : ExitRecord) (children more : List (Pid × ChildStatus)) :
    r.recordAll (children ++ more) = (r.recordAll children).recordAll more :=
  List.foldl_append

/-- **What is found under a number is what was recorded last, if it was recorded under this number**, whatever was
recorded before; zero is no number of a child. A status that a child can end with is found as it was recorded, and a
negative exit code as the signal it is mistaken for, if there is one. The word holds every pair of a number and an
encoded status, negative ones included, and every word is such a pair. -/
theorem last_recorded_reads_back :
    (∀ (children : List (Pid × ChildStatus)) (pid : Pid) (read : ChildStatus),
      (recordAll {} children).lookup pid = some read ↔
        pid ≠ 0 ∧ ∃ status, children.getLast? = some (pid, status) ∧ status.ReadsBack read) ∧
    (∀ (pid : Pid) (encoded : Int32), unpack (pack pid encoded) = (pid, encoded)) ∧
    (∀ word : UInt64, pack (unpack word).1 (unpack word).2 = word) := by
  refine ⟨fun children pid read => ?_, unpack_pack, pack_unpack⟩
  rw [recordAll_eq]
  cases hlast : children.getLast? with
  | none =>
    simp [lookup_empty]
  | some child =>
    obtain ⟨last, status⟩ := child
    simp only
    rw [lookup_record_eq]
    by_cases hpid : last = pid
    · subst hpid
      by_cases hzero : last = 0
      · simp [hzero]
      · have hfound : ¬ (last = 0 ∨ last ≠ last) := not_or.mpr ⟨hzero, fun h => h rfl⟩
        rw [if_neg hfound, ChildStatus.decode_encode_iff]
        simp [hzero]
    · simp [hpid]

/-- A child that is said to have exited with -15 is found as one that SIGTERM has killed, and one with the least
number, whose negation is that number again, is not found. -/
example : (recordAll {} [(7, .exited (-15))]).lookup 7 = some (.signaled .term) ∧
    (recordAll {} [(7, .exited Int32.minValue)]).lookup 7 = none := by
  decide

end ExitRecord

end BatchJob
