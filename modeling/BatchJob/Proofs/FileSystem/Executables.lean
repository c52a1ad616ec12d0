import BatchJob.FileSystem.Changes

/-!
# Executable files

`ExecutableFile` says what may be executed: a regular file with an execute bit for the owner, the group or others.
It is what the search for a program looks for (`isExecutable_iff`), and a path that ends in a slash never leads to one.
-/

namespace BatchJob.FileSystem

variable {fs : FileSystem} {path : String} {node : Node}

/-- Whether a node is a regular file. The system's own programs are. -/
def IsRegular : Node → Prop
  | .file _ _ | .program _ => True
  | _ => False

/-- Whether a mode has the execute bit of others, the group or the owner. -/
def HasExecuteBit (mode : Nat) : Prop :=
  mode.testBit 0 ∨ mode.testBit 3 ∨ mode.testBit 6

/-- A path leads to a regular file with an execute bit. -/
def ExecutableFile (fs : FileSystem) (path : String) : Prop :=
  ∃ node, fs.lookup path = .ok node ∧ IsRegular node ∧ HasExecuteBit (modeOf node)

theorem testBit_executeBits {i : Nat} : executeBits.testBit i = true ↔ i = 0 ∨ i = 3 ∨ i = 6 := by
  by_cases h : i < 7
  · have hsmall : ∀ i < 7, executeBits.testBit i = true ↔ i = 0 ∨ i = 3 ∨ i = 6 := by decide
    exact hsmall i h
  · have hzero : executeBits.testBit i = false :=
      Nat.testBit_lt_two_pow (Nat.lt_of_lt_of_le (by decide) (Nat.pow_le_pow_right (by decide) (Nat.not_lt.mp h)))
    simp only [hzero, Bool.false_eq_true, false_iff]
    omega

/-- Masking a mode tells whether it has an execute bit. -/
theorem hasExecuteBit_iff {mode : Nat} : (mode &&& executeBits != 0) = true ↔ HasExecuteBit mode := by
  have hbit (i : Nat) : (mode &&& executeBits).testBit i = true ↔ mode.testBit i = true ∧ (i = 0 ∨ i = 3 ∨ i = 6) := by
    rw [Nat.testBit_and, Bool.and_eq_true, testBit_executeBits]
  rw [bne_iff_ne]
  unfold HasExecuteBit
  constructor
  · intro h
    obtain ⟨i, hi⟩ := Nat.exists_testBit_of_ne_zero h
    obtain ⟨hmode, rfl | rfl | rfl⟩ := (hbit i).mp hi
    · exact .inl hmode
    · exact .inr (.inl hmode)
    · exact .inr (.inr hmode)
  · intro h hzero
    have hnone (i : Nat) : ¬ (mode.testBit i = true ∧ (i = 0 ∨ i = 3 ∨ i = 6)) := by
      rw [← hbit, hzero, Nat.zero_testBit]
      exact Bool.false_ne_true
    rcases h with h | h | h
    · exact hnone 0 ⟨h, .inl rfl⟩
    · exact hnone 3 ⟨h, .inr (.inl rfl)⟩
    · exact hnone 6 ⟨h, .inr (.inr rfl)⟩

/-- The system's own programs may be executed. -/
theorem hasExecuteBit_program (name : String) : HasExecuteBit (modeOf (.program name)) := by
  show HasExecuteBit 0o755
  exact hasExecuteBit_iff.mp (by decide)

/-- **What is executable is a regular file with an execute bit.** -/
theorem isExecutable_iff : fs.isExecutable path = true ↔ fs.ExecutableFile path := by
  unfold isExecutable ExecutableFile
  cases hlookup : fs.lookup path with
  | error e => simp
  | ok node =>
    cases node with
    | file mode content => simp [IsRegular, modeOf, ← hasExecuteBit_iff]
    | program name => simp [IsRegular, hasExecuteBit_program]
    | directory mode | fifo mode pipe | channel pipe | null | full | zero => simp [IsRegular]

/-- A path that ends in a slash leads to a directory, if to anything. -/
theorem isDirectory_of_slash {name : List String} {id : NodeId} (h : path.endsWith "/" = true)
    (located : fs.locate path = .ok (.node name id)) : fs.isDirectory id = true := by
  unfold locate at located
  cases hfault : pathFault? path with
  | some e =>
    rw [hfault] at located
    cases located
  | none =>
    rw [hfault] at located
    cases hwalk : fs.walk (fs.startOf path) (components path) with
    | error e =>
      rw [hwalk] at located
      cases located
    | ok location =>
      rw [hwalk] at located
      cases location with
      | absent name' => cases located
      | node name' id' =>
        by_cases hdirectory : fs.isDirectory id' = true
        · simp only [h, hdirectory] at located
          cases located
          exact hdirectory
        · rw [Bool.not_eq_true] at hdirectory
          simp only [h, hdirectory] at located
          cases located

/-- So it leads to nothing that can be executed. -/
theorem not_executableFile_of_slash (h : path.endsWith "/" = true) : ¬ fs.ExecutableFile path := by
  rintro ⟨node, hlookup, hregular, -⟩
  unfold lookup at hlookup
  split at hlookup
  · next name id hlocate =>
    have hdirectory : fs.isDirectory id = true := isDirectory_of_slash h hlocate
    cases hlookup
    unfold isDirectory at hdirectory
    split at hdirectory
    · next mode hnode =>
      rw [hnode] at hregular
      exact hregular
    · cases hdirectory
  · cases hlookup
  · cases hlookup

end BatchJob.FileSystem
