import BatchJob.ChildStatus

/-!
# The exit record

The last child that was collected, in one 64-bit word, so that it can be published in one store from any
context: the process number in the high half, the encoded status in the low half. A signal is encoded as
its negated number. A word of zero says that nothing was recorded.
-/

namespace BatchJob

/-- A status as one signed number. -/
def ChildStatus.encode : ChildStatus → Int32
  | .exited code => code
  | .signaled signal => -Int32.ofNat signal.number

/-- The status that a signed number stands for. Negation wraps at the least number. -/
def ChildStatus.decode? (encoded : Int32) : Option ChildStatus :=
  if 0 ≤ encoded then some (.exited encoded)
  else (Signal.ofNumber? (-encoded).toInt).map .signaled

/-- The last collected child and its status, packed. -/
structure ExitRecord where
  word : UInt64 := 0
  deriving DecidableEq

namespace ExitRecord

/-- The process number above the encoded status. -/
def pack (pid : Pid) (encoded : Int32) : UInt64 :=
  (pid.toUInt32.toUInt64 <<< 32) ||| encoded.toUInt32.toUInt64

/-- The two halves of a word. -/
def unpack (word : UInt64) : Pid × Int32 :=
  ((word >>> 32).toUInt32.toInt32, word.toUInt32.toInt32)

/-- Publishes the status of a child in place of what was recorded before. -/
def record (_ : ExitRecord) (pid : Pid) (status : ChildStatus) : ExitRecord :=
  ⟨pack pid status.encode⟩

/-- Publishes children one after the other, each with its status. -/
def recordAll (r : ExitRecord) (children : List (Pid × ChildStatus)) : ExitRecord :=
  children.foldl (fun r child => r.record child.1 child.2) r

/-- The recorded status of a child, if it was the last one collected. -/
def lookup (r : ExitRecord) (pid : Pid) : Option ChildStatus :=
  let (recorded, encoded) := unpack r.word
  if recorded = 0 ∨ recorded ≠ pid then none else ChildStatus.decode? encoded

/-- Records every child of a list of wait reports that has ended, in order, as one run of the handler for
child exits does. -/
def collect (r : ExitRecord) (reports : List WaitReport) : ExitRecord :=
  reports.foldl (fun r report =>
    match report.terminal? with
    | some (pid, status) => r.record pid status
    | none => r) r

end ExitRecord

end BatchJob
