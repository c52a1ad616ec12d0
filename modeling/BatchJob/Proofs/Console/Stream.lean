import BatchJob.Proofs.Console.Lines
import BatchJob.Proofs.FileSystem.Fifo

/-!
# The stream of a console

The calls to a console take its lines one after the other, each of them once, whatever the reads that they make: a call
for a line takes the first one of what is left (`nextLine_outcome`), and a call for a command passes over blank lines
and gives the first reply that is due (`next_outcome`). What is left is what the console has read and not given out, and
behind it what is in its node (`Source.Has`). It does not matter where the one ends and the other begins, and so the
reads, which are of 8192 bytes at most, leave no trace in the replies.
-/

namespace BatchJob.Console

open FileSystem

/-! ## What is left to give out -/

/-- What a console is open on: a regular file, or a FIFO with a number of writers beside the console itself. -/
inductive Medium
  | file
  | fifo (id : NodeId) (writers : Nat)

/-- Whether nothing can follow what is there. -/
def Medium.isEnded : Medium → Bool
  | file => true
  | fifo .. => false

/-- What a console does when it has nothing left: a regular file is at its end, and on a FIFO it waits for a writer. -/
def Medium.pause {ε α : Type} (value : Attempt ε α) : Medium → Attempt ε α
  | file => value
  | fifo .. => .blocked

/-- The bytes that can still be read from an open node. On a FIFO the console counts as a writer, so that the data
has no end. -/
inductive Stock (fs : FileSystem) (file : OpenFile) : Medium → Bytes → Prop
  | file {bytes : Bytes} (holds : fs.Holds file.node bytes) (readable : file.access ≠ .write) :
    Stock fs file .file (bytes.drop file.offset)
  | fifo {id : NodeId} {writers : Nat} {bytes : Bytes} (node : file.node = id)
    (carries : fs.Carries id (writers + 1) bytes) (readable : file.access ≠ .write) :
    Stock fs file (.fifo id writers) bytes

/-- The bytes that a console has left to give out: those it has read and not given out, and those in its node. -/
def Source.Has (s : Source) (fs : FileSystem) (m : Medium) (all : Bytes) : Prop :=
  ∃ pending, Stock fs s.file m pending ∧ s.buffer ++ pending = all

variable {fs : FileSystem} {file : OpenFile} {m : Medium} {s : Source} {all pending : Bytes}

/-- A read where nothing is left. -/
theorem Stock.read_nil (h : Stock fs file m []) {n : Nat} (hn : 0 < n) :
    ∃ fs', fs.read file n = (m.pause (.done []), file, fs') ∧ Stock fs' file m [] := by
  generalize hpending : ([] : Bytes) = pending at h
  cases h with
  | @file bytes hholds hreadable =>
    refine ⟨fs, ?_, .file hholds hreadable⟩
    rw [read_holds hholds hreadable, ← hpending, List.take_nil]
    rfl
  | fifo hnode hcarries hreadable =>
    subst hnode hpending
    obtain ⟨fs', hread, hcarries'⟩ := hcarries.read_nil hreadable hn
    exact ⟨fs', hread, .fifo rfl hcarries' hreadable⟩

/-- A read where something is left takes the first bytes of it. -/
theorem Stock.read (h : Stock fs file m pending) (some : pending ≠ []) {n : Nat} (hn : 0 < n) :
    ∃ file' fs', fs.read file n = (.done (pending.take n), file', fs') ∧ Stock fs' file' m (pending.drop n) := by
  cases h with
  | @file bytes hholds hreadable =>
    refine ⟨_, fs, read_holds hholds hreadable n, ?_⟩
    have hrest : (bytes.drop file.offset).drop n =
        bytes.drop (file.offset + ((bytes.drop file.offset).take n).length) := by
      rw [List.drop_drop, List.length_take]
      rcases Nat.le_total n (bytes.drop file.offset).length with hle | hle
      · rw [Nat.min_eq_left hle]
      · rw [Nat.min_eq_right hle, List.length_drop]
        rw [List.length_drop] at hle
        rw [List.drop_eq_nil_of_le (by omega), List.drop_eq_nil_of_le (by omega)]
    rw [hrest]
    exact Stock.file hholds hreadable
  | fifo hnode hcarries hreadable =>
    subst hnode
    obtain ⟨fs', hread, hcarries'⟩ := hcarries.read hreadable some hn
    exact ⟨file, fs', hread, .fifo rfl hcarries' hreadable⟩

/-- The console counts what it has left. -/
theorem Source.Has.available (h : s.Has fs m all) : s.available fs = all.length := by
  obtain ⟨pending, hstock, rfl⟩ := h
  rw [List.length_append]
  unfold Source.available
  cases hstock with
  | file hholds hreadable =>
    obtain ⟨mode, content, hnode, rfl⟩ := hholds
    rw [hnode, List.length_drop]
    rfl
  | fifo hid hcarries hreadable =>
    subst hid
    obtain ⟨mode, pipe, hnode, -, -, rfl⟩ := hcarries
    rw [hnode, ByteQueue.length_toList]

/-! ## One line -/

/-- What a call for a line comes to when `all` is left: the first line of it, or none that is due. -/
inductive LineOutcome (m : Medium) (all : Bytes) : Attempt IoError Bytes × Source × FileSystem → Prop
  | line {line rest : Bytes} {s' : Source} {fs' : FileSystem} (nonempty : line ≠ []) (taken : all = line ++ rest)
    (left : s'.Has fs' m rest) (gives : Gives m.isEnded all rest (lineReply? line).toList) :
    LineOutcome m all (.done line, s', fs')
  | pause {s' : Source} {fs' : FileSystem} (left : s'.Has fs' m all) (none : due m.isEnded all = []) :
    LineOutcome m all (m.pause (.done []), s', fs')

/-- A line that was read before is given out without a read. -/
theorem nextLine_buffered {line rest : Bytes} (h : Stock fs s.file m pending)
    (split : Source.splitLine? s.buffer = some (line, rest)) (fuel : Nat) :
    LineOutcome m (s.buffer ++ pending) (s.nextLine fuel fs) := by
  obtain ⟨text, htext, rfl, hbuffer⟩ := splitLine?_eq_some split
  have hall : s.buffer ++ pending = text ++ 10 :: (rest ++ pending) := by
    rw [hbuffer, List.append_assoc, List.cons_append]
  have hline : s.nextLine fuel fs = (.done (text ++ [10]), { s with buffer := rest }, fs) := by
    unfold Source.nextLine
    rw [split]
  rw [hline, hall]
  refine .line (by simp) ?_ ⟨pending, h, rfl⟩ (gives_line htext _)
  rw [List.append_assoc]
  rfl

/-- With nothing left to read, what is in the buffer is the last line of a regular file and the beginning of a line of
a FIFO. -/
theorem nextLine_dry (h : Stock fs s.file m []) (unsplit : Source.splitLine? s.buffer = none) (fuel : Nat) :
    LineOutcome m s.buffer (s.nextLine (fuel + 1) fs) := by
  have hunbroken := splitLine?_eq_none unsplit
  obtain ⟨fs', hread, hstock⟩ := h.read_nil (by decide : 0 < Source.chunk)
  cases m with
  | file =>
    have hline : s.nextLine (fuel + 1) fs = (.done s.buffer, { s with buffer := [] }, fs') := by
      unfold Source.nextLine
      rw [unsplit]
      simp only [hread]
      rfl
    rw [hline]
    by_cases hbuffer : s.buffer = []
    · rw [hbuffer]
      exact .pause ⟨[], hstock, rfl⟩ rfl
    · exact .line hbuffer (List.append_nil _).symm ⟨[], hstock, rfl⟩ (gives_last hunbroken hbuffer)
  | fifo id writers =>
    have hline : s.nextLine (fuel + 1) fs = (.blocked, s, fs') := by
      unfold Source.nextLine
      rw [unsplit]
      simp only [hread]
      rfl
    rw [hline]
    exact .pause ⟨[], hstock, List.append_nil _⟩ (due_of_unbroken hunbroken)

/-- **A call for a line takes the first one there is, or finds that none is due.** -/
theorem nextLine_outcome {fuel : Nat} (h : Stock fs s.file m pending) (enough : pending.length < fuel) :
    LineOutcome m (s.buffer ++ pending) (s.nextLine fuel fs) := by
  -- the induction is on the reads; what the buffer and the node hold together stays the same
  induction fuel generalizing s fs pending with
  | zero => omega
  | succ fuel ih =>
    cases hsplit : Source.splitLine? s.buffer with
    | some split => exact nextLine_buffered h hsplit _
    | none =>
      by_cases hnil : pending = []
      · subst hnil
        rw [List.append_nil]
        exact nextLine_dry h hsplit fuel
      · obtain ⟨file', fs', hread, hstock⟩ := h.read hnil (by decide : 0 < Source.chunk)
        have hpos : 0 < pending.length := List.length_pos_iff.mpr hnil
        have hchunk : 0 < Source.chunk := by decide
        obtain ⟨b, more, hmore⟩ : ∃ b more, pending.take Source.chunk = b :: more := by
          refine List.exists_cons_of_ne_nil (List.length_pos_iff.mp ?_)
          rw [List.length_take]
          omega
        have hline : s.nextLine (fuel + 1) fs =
            Source.nextLine fuel { file := file', buffer := s.buffer ++ pending.take Source.chunk } fs' := by
          rw [Source.nextLine, hsplit]
          simp only [hread, hmore]
        have hsame : s.buffer ++ pending =
            (s.buffer ++ pending.take Source.chunk) ++ pending.drop Source.chunk := by
          rw [List.append_assoc, List.take_append_drop]
        have hless : (pending.drop Source.chunk).length < fuel := by
          rw [List.length_drop]
          omega
        rw [hline, hsame]
        exact ih (s := { file := file', buffer := s.buffer ++ pending.take Source.chunk }) hstock hless

/-! ## One command -/

/-- A reply as a call gives it. -/
def ofReply : Reply → Attempt ConsoleError Command
  | .ok command => .done command
  | .error e => .failed e

/-- What a call for a command comes to when `all` is left: the first reply that is due, or none. -/
inductive CallOutcome (m : Medium) (all : Bytes) : Attempt ConsoleError Command × Source × FileSystem → Prop
  | reply {reply : Reply} {rest : Bytes} {s' : Source} {fs' : FileSystem} (left : s'.Has fs' m rest)
    (gives : Gives m.isEnded all rest [reply]) : CallOutcome m all (ofReply reply, s', fs')
  | pause {rest : Bytes} {s' : Source} {fs' : FileSystem} (left : s'.Has fs' m rest)
    (gives : Gives m.isEnded all rest []) (none : due m.isEnded rest = []) :
    CallOutcome m all (m.pause (.failed .closed), s', fs')

/-- Lines that are passed over change nothing about what a call comes to. -/
theorem CallOutcome.after {rest : Bytes} {call : Attempt ConsoleError Command × Source × FileSystem}
    (skipped : Gives m.isEnded all rest []) (h : CallOutcome m rest call) : CallOutcome m all call := by
  cases h with
  | reply hleft hgives => exact .reply hleft (skipped.trans hgives)
  | pause hleft hgives hnone => exact .pause hleft (skipped.trans hgives) hnone

theorem nextWithin_outcome {fuel reads : Nat} (h : s.Has fs m all) (enough : all.length < fuel)
    (enoughReads : all.length < reads) : CallOutcome m all (s.nextWithin fuel reads fs) := by
  -- the induction is on the lines; each one that is passed over takes a byte
  induction fuel generalizing s fs all with
  | zero => omega
  | succ fuel ih =>
    obtain ⟨pending, hstock, hall⟩ := h
    have hreads : pending.length < reads := by
      rw [← hall, List.length_append] at enoughReads
      omega
    have houtcome := nextLine_outcome hstock hreads
    rw [hall] at houtcome
    unfold Source.nextWithin
    generalize s.nextLine reads fs = call at houtcome
    cases houtcome with
    | pause hleft hnone =>
      cases m with
      | file => exact .pause hleft (.refl _ _) hnone
      | fifo id writers => exact .pause hleft (.refl _ _) hnone
    | @line line rest s' fs' hnonempty htaken hleft hgives =>
      have hless : rest.length < all.length := by
        have hpos : 0 < line.length := List.length_pos_iff.mpr hnonempty
        rw [htaken, List.length_append]
        omega
      rw [lineReply?_eq] at hgives
      obtain ⟨b, text, rfl⟩ := List.exists_cons_of_ne_nil hnonempty
      simp only
      cases hdecode : Text.decode? (b :: text) with
      | none =>
        rw [hdecode] at hgives
        exact .reply hleft hgives
      | some chars =>
        rw [hdecode] at hgives
        cases hcommand : Command.ofChars? chars with
        | some command =>
          simp only [hcommand] at hgives ⊢
          show CallOutcome m all (ofReply (.ok command), s', fs')
          exact .reply hleft hgives
        | none =>
          -- the line is blank
          simp only [hcommand] at hgives ⊢
          exact .after hgives (ih hleft (by omega) (by omega))

/-- **A call for a command gives the first reply that is due, and finds none only where none is.** -/
theorem next_outcome (h : s.Has fs m all) : CallOutcome m all (s.next fs) := by
  have hfuel : all.length < s.available fs + 1 := by
    rw [h.available]
    exact Nat.lt_succ_self _
  exact nextWithin_outcome h hfuel hfuel

end BatchJob.Console
