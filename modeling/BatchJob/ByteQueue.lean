/-!
# Byte queues

A first-in first-out queue of bytes in two lists, the second one reversed, with its size beside them, so
that a queue which is filled and emptied in single bytes costs no more than its traffic. The view of a
queue is `toList`; `toList_append`, `take_fst` and `toList_take` say what each operation does to it.
-/

namespace BatchJob

/-- Bytes as programs exchange them. -/
abbrev Bytes := List UInt8

/-- A queue: the bytes to be taken first, and behind them the later ones in reverse order. -/
structure ByteQueue where
  front : Bytes
  back : Bytes
  size : Nat
  size_eq : size = front.length + back.length

namespace ByteQueue

/-- The queue without bytes. -/
def empty : ByteQueue := ⟨[], [], 0, rfl⟩

instance : Inhabited ByteQueue := ⟨empty⟩

/-- The bytes of a queue, the one to be taken first at the head. -/
def toList (q : ByteQueue) : Bytes :=
  q.front ++ q.back.reverse

/-- Whether a queue holds no byte. -/
def isEmpty (q : ByteQueue) : Bool :=
  q.size == 0

/-- Adds bytes at the end. -/
def append (q : ByteQueue) (bytes : Bytes) : ByteQueue where
  front := q.front
  back := bytes.reverse ++ q.back
  size := q.size + bytes.length
  size_eq := by simp [q.size_eq]; omega

/-- The same queue with all its bytes in the first list. -/
def levelled (q : ByteQueue) : ByteQueue where
  front := q.front ++ q.back.reverse
  back := []
  size := q.size
  size_eq := by simp [q.size_eq]

/-- The same queue with at least `n` bytes in the first list if it has as many. -/
def prepared (q : ByteQueue) (n : Nat) : ByteQueue :=
  if (q.front.drop (n - 1)).isEmpty then q.levelled else q

/-- Takes up to `n` bytes from the start. -/
def take (q : ByteQueue) (n : Nat) : Bytes × ByteQueue :=
  let p := q.prepared n
  let taken := p.front.take n
  (taken, ⟨p.front.drop n, p.back, p.size - taken.length, by simp [taken, p.size_eq]; omega⟩)

@[simp] theorem toList_empty : empty.toList = [] := rfl

@[simp] theorem length_toList (q : ByteQueue) : q.toList.length = q.size := by
  simp [toList, q.size_eq]

@[simp] theorem toList_append (q : ByteQueue) (bytes : Bytes) :
    (q.append bytes).toList = q.toList ++ bytes := by
  simp [toList, append]

@[simp] theorem append_nil (q : ByteQueue) : q.append [] = q := rfl

theorem isEmpty_iff (q : ByteQueue) : q.isEmpty = true ↔ q.toList = [] := by
  rw [← List.length_eq_zero_iff, length_toList]
  simp [isEmpty]

@[simp] theorem toList_levelled (q : ByteQueue) : q.levelled.toList = q.toList := by
  simp [levelled, toList]

@[simp] theorem toList_prepared (q : ByteQueue) (n : Nat) : (q.prepared n).toList = q.toList := by
  unfold prepared
  split <;> simp

/-- A prepared queue has its first `n` bytes in the first list. -/
theorem take_front_prepared (q : ByteQueue) (n : Nat) :
    (q.prepared n).front.take n = q.toList.take n ∧
      (q.prepared n).front.drop n ++ (q.prepared n).back.reverse = q.toList.drop n := by
  unfold prepared
  split
  · next h => simp [levelled, toList]
  · next h =>
    have hlen : n ≤ q.front.length := by
      simp only [List.isEmpty_iff, List.drop_eq_nil_iff, Nat.not_le] at h
      omega
    simp [toList, List.take_append_of_le_length hlen, List.drop_append_of_le_length hlen]

@[simp] theorem take_fst (q : ByteQueue) (n : Nat) : (q.take n).1 = q.toList.take n :=
  (take_front_prepared q n).1

@[simp] theorem toList_take (q : ByteQueue) (n : Nat) : (q.take n).2.toList = q.toList.drop n :=
  (take_front_prepared q n).2

end ByteQueue

end BatchJob
