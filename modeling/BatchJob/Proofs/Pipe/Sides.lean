import BatchJob.Proofs.Pipe.Transfer

/-!
# The two sides of a pipe

What holds of one side of a pipe holds of the other, so its ends, their duplicates and their modes are looked up here by
the side (`close_spec` and the like, one for each operation). A transfer changes none of them (`Transfer`): it takes
bytes in behind the queue and gives bytes from the front of it. To write all of some bytes is to take them in part by
part (`writeAll_transfer`), and where a write may not wait these are the bytes that fit (`writeAll_prompt`).

Main statement: `writeAll_prompt`. Closing an end that has a duplicate is not noticed by other calls (`fetch_close`,
`offer_close`, `writeAll_close`).
-/

namespace BatchJob

namespace Pipe

variable {p p' p'' : Pipe} {side : PipeEnd} {taken given more bytes : Bytes} {n : Nat}

/-! ## The two sides -/

/-- How many duplicates of an end are open. -/
def duplicatesOf (p : Pipe) : PipeEnd → Nat
  | .read => p.readDuplicates
  | .write => p.writeDuplicates

/-- Whether the calls on a side may not wait. -/
def isNonblocking (p : Pipe) : PipeEnd → Bool
  | .read => p.readNonblocking
  | .write => p.writeNonblocking

/-- Whether anybody can reach a side. -/
def isHeld (p : Pipe) (side : PipeEnd) : Bool :=
  p.isOpen side || 0 < p.duplicatesOf side

theorem SameEnds.sides (h : SameEnds p p') (side : PipeEnd) :
    p'.isOpen side = p.isOpen side ∧ p'.duplicatesOf side = p.duplicatesOf side ∧
      p'.isNonblocking side = p.isNonblocking side := by
  rw [h]
  cases side <;> exact ⟨rfl, rfl, rfl⟩

theorem close_spec (p : Pipe) (side : PipeEnd) :
    (p.close side).queue = p.queue ∧ ∀ other,
      (p.close side).isOpen other = (p.isOpen other && side != other) ∧
      (p.close side).duplicatesOf other = p.duplicatesOf other ∧
      (p.close side).isNonblocking other = p.isNonblocking other := by
  cases side
  all_goals
    refine ⟨rfl, fun other => ?_⟩
    cases other <;> simp [close, isOpen, duplicatesOf, isNonblocking]

theorem close_of_closed (h : p.isOpen side = false) : p.close side = p := by
  obtain ⟨queue, readOpen, writeOpen, _, _, _, _⟩ := p
  cases side <;> cases h <;> rfl

theorem dropDuplicate_spec (p : Pipe) (side : PipeEnd) :
    (p.dropDuplicate side).queue = p.queue ∧ ∀ other,
      (p.dropDuplicate side).isOpen other = p.isOpen other ∧
      (p.dropDuplicate side).duplicatesOf other = p.duplicatesOf other - (if other = side then 1 else 0) ∧
      (p.dropDuplicate side).isNonblocking other = p.isNonblocking other := by
  cases side
  all_goals
    refine ⟨rfl, fun other => ?_⟩
    cases other <;> simp [dropDuplicate, isOpen, duplicatesOf, isNonblocking]

theorem duplicate_spec (h : p.duplicate side = .ok p') :
    p.isOpen side = true ∧ p'.queue = p.queue ∧ ∀ other,
      p'.isOpen other = p.isOpen other ∧
      p'.duplicatesOf other = p.duplicatesOf other + (if other = side then 1 else 0) ∧
      p'.isNonblocking other = p.isNonblocking other := by
  unfold duplicate at h
  split at h
  next hopen =>
    refine ⟨hopen, ?_⟩
    cases side
    all_goals
      cases h
      refine ⟨rfl, fun other => ?_⟩
      cases other <;> simp [isOpen, duplicatesOf, isNonblocking]
  next => cases h

theorem setNonblocking_spec (h : p.setNonblocking side = .ok p') :
    p.isOpen side = true ∧ p'.queue = p.queue ∧ ∀ other,
      p'.isOpen other = p.isOpen other ∧
      p'.duplicatesOf other = p.duplicatesOf other ∧
      p'.isNonblocking other = (p.isNonblocking other || side == other) := by
  unfold setNonblocking at h
  split at h
  next hopen =>
    refine ⟨hopen, ?_⟩
    cases side
    all_goals
      cases h
      refine ⟨rfl, fun other => ?_⟩
      cases other <;> simp [isOpen, duplicatesOf, isNonblocking]
  next => cases h

/-! ## Writing all -/

theorem writeAll_nil (p : Pipe) : p.writeAll [] = (.done (), p) := by
  rw [writeAll, dif_pos rfl]

/-- A write that gets some bytes in is followed by one of the rest. -/
theorem writeAll_of_done (some : bytes ≠ []) (write : p.write bytes = (.done n, p')) (took : n ≠ 0) :
    p.writeAll bytes = p'.writeAll (bytes.drop n) := by
  rw [writeAll, dif_neg some, write]
  exact dif_neg took

theorem writeAll_of_failed {e : PipeError} (some : bytes ≠ []) (write : p.write bytes = (.failed e, p')) :
    p.writeAll bytes = (.failed e, p') := by
  rw [writeAll, dif_neg some, write]

/-- Writing all of some bytes through an end that is open fails as its writes do. -/
theorem writeAll_failed {e : PipeError} (hopen : p.writeOpen = true) (h : p.writeAll bytes = (.failed e, p')) :
    ∃ cause, e = .write cause := by
  -- along the writes that get something in, which leave the end open
  fun_induction writeAll p bytes with
  | case1 => cases h
  | case2 =>
    cases h
    exact ⟨_, rfl⟩
  | case3 p bytes some n p'' write took shorter ih =>
    refine ih ?_ h
    rw [(offer_done (write_done write).2).1]
    exact hopen
  | case4 p bytes some e p'' write =>
    cases h
    rw [write_of_open hopen] at write
    rcases hresult : (p.offer bytes).1 with _ | cause | _
    all_goals
      rw [hresult] at write
      cases write
    exact ⟨cause, rfl⟩
  | case5 => cases h

/-- A write to a full pipe that may not wait gets nothing in. -/
theorem writeAll_of_full (hopen : p.writeOpen = true) (reader : p.hasReader = true)
    (prompt : p.writeNonblocking = true) (some : bytes ≠ []) (full : p.room = 0) :
    p.writeAll bytes = (.failed (.write (.os .again)), p) := by
  refine writeAll_of_failed some ?_
  rw [write_of_open hopen, offer_of_full some reader full prompt]
  rfl

/-- **Writing all of some bytes through an end that may not wait gets in just those that fit, and fails if they are not
all.** -/
theorem writeAll_prompt (hopen : p.writeOpen = true) (reader : p.hasReader = true)
    (prompt : p.writeNonblocking = true) (bytes : Bytes) :
    p.writeAll bytes = (if bytes.length ≤ p.room then .done () else .failed (.write (.os .again)),
      { p with queue := p.queue.append (bytes.take p.room) }) := by
  by_cases some : bytes = []
  · subst some
    rw [writeAll_nil, List.take_nil, ByteQueue.append_nil]
    rfl
  have hlen : 0 < bytes.length := List.length_pos_iff.mpr some
  by_cases full : p.room = 0
  · rw [writeAll_of_full hopen reader prompt some full, full, List.take_zero, ByteQueue.append_nil,
      if_neg (by omega)]
  -- the first write fills the pipe as far as the bytes go, and what is left of them finds no room
  have hfits : 0 < p.room := Nat.pos_of_ne_zero full
  have hwrite : p.write bytes =
      (.done (min p.room bytes.length), { p with queue := p.queue.append (bytes.take p.room) }) := by
    rw [write_of_open hopen, offer_of_room some reader hfits]
    rfl
  rw [writeAll_of_done some hwrite (by omega)]
  by_cases hall : bytes.length ≤ p.room
  · rw [List.drop_eq_nil_of_le (by omega), writeAll_nil, if_pos hall]
  · have hrest : bytes.drop (min p.room bytes.length) ≠ [] := by
      rw [ne_eq, List.drop_eq_nil_iff]
      omega
    have hroom : ({ p with queue := p.queue.append (bytes.take p.room) } : Pipe).room = 0 := by
      show capacity - (p.queue.size + (bytes.take p.room).length) = 0
      rw [List.length_take]
      unfold room at hall ⊢
      omega
    rw [if_neg hall]
    exact writeAll_of_full hopen reader prompt hrest hroom

/-- The parts of some bytes that writing all of them gets in, one for each write. -/
def parts (p : Pipe) (bytes : Bytes) : List Bytes :=
  if h : bytes = [] then []
  else
    match p.write bytes with
    | (.done n, p) =>
      if hn : n = 0 then []
      else
        have : (bytes.drop n).length < bytes.length := by
          have := List.length_pos_iff.mpr h
          simp only [List.length_drop]
          omega
        bytes.take n :: p.parts (bytes.drop n)
    | (.failed _, _) | (.blocked, _) => []
termination_by bytes.length

/-! ## Transfers -/

/-- What a transfer does to a pipe: it takes some bytes in behind the queue and gives some from the front of it. -/
structure Transfer (p : Pipe) (taken given : Bytes) (p' : Pipe) : Prop where
  sameEnds : SameEnds p p'
  kept : given ++ p'.queue.toList = p.queue.toList ++ taken
  fits : p.queue.size ≤ capacity → p'.queue.size ≤ capacity

theorem Transfer.nothing (p : Pipe) : p.Transfer [] [] p :=
  ⟨rfl, (List.append_nil _).symm, id⟩

theorem Transfer.and_then (first : p.Transfer taken [] p') (second : p'.Transfer more [] p'') :
    p.Transfer (taken ++ more) [] p'' where
  sameEnds := by
    rw [SameEnds, second.sameEnds, first.sameEnds]
  kept := by
    rw [← List.append_assoc, ← first.kept]
    exact second.kept
  fits := second.fits ∘ first.fits

theorem fetch_transfer (p : Pipe) (n : Nat) : p.Transfer [] (p.fetch n).1.given (p.fetch n).2 := by
  rcases hfetch : p.fetch n with ⟨result, p'⟩
  obtain ⟨hends, hqueue, -⟩ := fetch_given hfetch
  refine ⟨hends, by rw [hqueue, List.append_nil], fun hfits => ?_⟩
  show p'.queue.size ≤ capacity
  have hlen := congrArg List.length hqueue
  rw [List.length_append, ByteQueue.length_toList, ByteQueue.length_toList] at hlen
  omega

/-- A pipe takes no more than there is room for. -/
theorem offer_taken_le (p : Pipe) (bytes : Bytes) : (p.offer bytes).1.taken ≤ p.room := by
  rcases hoffer : p.offer bytes with ⟨result, p'⟩
  cases result with
  | done n =>
    show n ≤ p.room
    by_cases some : bytes = []
    · obtain ⟨-, hlen, -⟩ := offer_done hoffer
      rw [some, List.length_nil] at hlen
      omega
    · obtain ⟨-, -, hroom⟩ := offer_done_some some hoffer
      omega
  | failed e | blocked => exact Nat.zero_le _

theorem offer_transfer (p : Pipe) (bytes : Bytes) :
    p.Transfer (bytes.take (p.offer bytes).1.taken) [] (p.offer bytes).2 := by
  obtain ⟨hends, hqueue⟩ := offer_taken p bytes
  refine ⟨hends, hqueue, fun hfits => ?_⟩
  have hroom := offer_taken_le p bytes
  have hlen := congrArg List.length hqueue
  rw [List.length_append, List.length_take, ByteQueue.length_toList, ByteQueue.length_toList] at hlen
  unfold room at hroom
  omega

/-- A write through the own end that is not accepted leaves the pipe alone. -/
theorem write_refused_eq {result : Attempt PipeError Nat} (h : p.write bytes = (result, p'))
    (refused : ∀ n, result ≠ .done n) : p' = p := by
  unfold write at h
  split at h
  next =>
    rcases hoffer : p.offer bytes with ⟨answer, q⟩
    rw [hoffer] at h
    cases h
    refine offer_refused hoffer fun n hdone => ?_
    exact refused n (by rw [hdone]; rfl)
  next =>
    cases h
    rfl

theorem write_transfer (h : p.write bytes = (.done n, p')) : p.Transfer (bytes.take n) [] p' := by
  have htransfer := offer_transfer p bytes
  rw [(write_done h).2] at htransfer
  exact htransfer

/-- The parts are a first part of the bytes, and all of them if writing all succeeds. -/
theorem parts_flatten (p : Pipe) (bytes : Bytes) :
    (p.parts bytes).flatten <+: bytes ∧ ((p.writeAll bytes).1 = .done () → (p.parts bytes).flatten = bytes) := by
  fun_induction writeAll p bytes with
  | case1 p =>
    rw [parts, dif_pos rfl]
    exact ⟨List.prefix_rfl, fun _ => rfl⟩
  | case2 p bytes some p' write =>
    rw [parts, dif_neg some, write]
    exact ⟨List.nil_prefix, nofun⟩
  | case3 p bytes some n p' write took shorter ih =>
    obtain ⟨hfront, hall⟩ := ih
    rw [parts, dif_neg some, write]
    simp only [dif_neg took, List.flatten_cons]
    constructor
    · calc bytes.take n ++ (p'.parts (bytes.drop n)).flatten
          <+: bytes.take n ++ bytes.drop n := (List.prefix_append_right_inj _).mpr hfront
        _ = bytes := List.take_append_drop n bytes
    · intro hdone
      rw [hall hdone, List.take_append_drop]
  | case4 p bytes some e p' write | case5 p bytes some p' write =>
    rw [parts, dif_neg some, write]
    exact ⟨List.nil_prefix, nofun⟩

/-- Writing all of some bytes takes in the parts of them, one behind the other. -/
theorem writeAll_transfer (p : Pipe) (bytes : Bytes) :
    p.Transfer (p.parts bytes).flatten [] (p.writeAll bytes).2 := by
  -- along the writes that get something in; the last one gets in nothing
  fun_induction writeAll p bytes with
  | case1 p =>
    rw [parts, dif_pos rfl]
    exact .nothing p
  | case2 p bytes some p' write =>
    rw [parts, dif_neg some, write]
    exact write_transfer write
  | case3 p bytes some n p' write took shorter ih =>
    rw [parts, dif_neg some, write]
    simp only [dif_neg took, List.flatten_cons]
    exact (write_transfer write).and_then ih
  | case4 p bytes some e p' write | case5 p bytes some p' write =>
    rw [parts, dif_neg some, write, write_refused_eq write nofun]
    exact .nothing p

/-! ## Closing an end that has a duplicate -/

/-- As many can reach a side with a duplicate when its own end is closed. -/
theorem isHeld_close (held : 0 < p.duplicatesOf side) (other : PipeEnd) :
    (p.close side).isHeld other = p.isHeld other := by
  obtain ⟨-, hsides⟩ := p.close_spec side
  unfold isHeld
  rw [(hsides other).1, (hsides other).2.1]
  by_cases hsame : side = other
  · subst hsame
    simp [held]
  · rw [bne_iff_ne.mpr hsame, Bool.and_true]

/-- A read sees of an own end only whether anybody can write. -/
theorem fetch_close (held : 0 < p.duplicatesOf side) (n : Nat) :
    (p.close side).fetch n = ((p.fetch n).1, (p.fetch n).2.close side) := by
  have hqueue : (p.close side).queue = p.queue := (p.close_spec side).1
  have hwriter : (p.close side).hasWriter = p.hasWriter := isHeld_close held .write
  have hmode : (p.close side).readNonblocking = p.readNonblocking := ((p.close_spec side).2 .read).2.2
  unfold fetch
  rw [hwriter, hqueue, hmode]
  by_cases hn : n = 0
  · rw [if_pos hn, if_pos hn]
  rw [if_neg hn, if_neg hn]
  by_cases hsome : (!p.queue.isEmpty) = true
  · rw [if_pos hsome, if_pos hsome]
    cases side <;> rfl
  rw [if_neg hsome, if_neg hsome]
  by_cases hended : (!p.hasWriter) = true
  · rw [if_pos hended, if_pos hended]
  rw [if_neg hended, if_neg hended]
  cases p.readNonblocking <;> rfl

/-- A write sees of an own end only whether anybody can read. -/
theorem offer_close (held : 0 < p.duplicatesOf side) (bytes : Bytes) :
    (p.close side).offer bytes = ((p.offer bytes).1, (p.offer bytes).2.close side) := by
  have hqueue : (p.close side).queue = p.queue := (p.close_spec side).1
  have hreader : (p.close side).hasReader = p.hasReader := isHeld_close held .read
  have hroom : (p.close side).room = p.room := by rw [room, hqueue, room]
  have hmode : (p.close side).writeNonblocking = p.writeNonblocking := ((p.close_spec side).2 .write).2.2
  unfold offer
  rw [hreader, hqueue, hroom, hmode]
  by_cases hnil : bytes.isEmpty = true
  · rw [if_pos hnil, if_pos hnil]
  rw [if_neg hnil, if_neg hnil]
  by_cases hunread : (!p.hasReader) = true
  · rw [if_pos hunread, if_pos hunread]
  rw [if_neg hunread, if_neg hunread]
  by_cases hfull : p.room = 0
  · rw [if_pos hfull, if_pos hfull]
    cases p.writeNonblocking <;> rfl
  · rw [if_neg hfull, if_neg hfull]
    cases side <;> rfl

theorem isOpen_close {other : PipeEnd} (ne : side ≠ other) : (p.close side).isOpen other = p.isOpen other := by
  rw [((p.close_spec side).2 other).1, bne_iff_ne.mpr ne, Bool.and_true]

theorem read_close (held : 0 < p.duplicatesOf side) (ne : side ≠ .read) (n : Nat) :
    (p.close side).read n = ((p.read n).1, (p.read n).2.close side) := by
  have hopen : (p.close side).readOpen = p.readOpen := isOpen_close ne
  unfold read
  rw [hopen, fetch_close held]
  split <;> rfl

theorem write_close (held : 0 < p.duplicatesOf side) (ne : side ≠ .write) (bytes : Bytes) :
    (p.close side).write bytes = ((p.write bytes).1, (p.write bytes).2.close side) := by
  have hopen : (p.close side).writeOpen = p.writeOpen := isOpen_close ne
  unfold write
  rw [hopen, offer_close held]
  split <;> rfl

theorem writeAll_close (held : 0 < p.duplicatesOf side) (ne : side ≠ .write) (bytes : Bytes) :
    (p.close side).writeAll bytes = ((p.writeAll bytes).1, (p.writeAll bytes).2.close side) := by
  -- the two loops make the same writes, for a write leaves the duplicates alone
  fun_induction writeAll p bytes with
  | case1 p => exact writeAll_nil _
  | case2 p bytes some p' write =>
    have hwrite := write_close held ne bytes
    rw [write] at hwrite
    rw [writeAll, dif_neg some, hwrite]
    rfl
  | case3 p bytes some n p' write took shorter ih =>
    have hwrite := write_close held ne bytes
    rw [write] at hwrite
    rw [writeAll_of_done some hwrite took]
    refine ih ?_
    rw [((write_transfer write).sameEnds.sides side).2.1]
    exact held
  | case4 p bytes some e p' write =>
    have hwrite := write_close held ne bytes
    rw [write] at hwrite
    exact writeAll_of_failed some hwrite
  | case5 p bytes some p' write =>
    have hwrite := write_close held ne bytes
    rw [write] at hwrite
    rw [writeAll, dif_neg some, hwrite]

theorem setNonblocking_close {other : PipeEnd} (ne : side ≠ other) :
    (p.close side).setNonblocking other = (p.setNonblocking other).map (·.close side) := by
  unfold setNonblocking
  rw [isOpen_close ne]
  cases p.isOpen other <;> cases side <;> cases other <;> rfl

theorem duplicate_close {other : PipeEnd} (ne : side ≠ other) :
    (p.close side).duplicate other = (p.duplicate other).map (·.close side) := by
  unfold duplicate
  rw [isOpen_close ne]
  cases p.isOpen other <;> cases side <;> cases other <;> rfl

theorem close_close (p : Pipe) (side other : PipeEnd) : (p.close side).close other = (p.close other).close side := by
  cases side <;> cases other <;> rfl

theorem dropDuplicate_close (p : Pipe) (side other : PipeEnd) :
    (p.close side).dropDuplicate other = (p.dropDuplicate other).close side := by
  cases side <;> cases other <;> rfl

end Pipe

end BatchJob
