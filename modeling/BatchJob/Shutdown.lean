/-!
# The shutdown signal

A sticky wake-up: posting raises a flag and makes a descriptor readable, and both stay so until the signal
is rearmed. Each operation has two steps, and other parties may run between them: a post swaps the flag
and then writes one byte to the wake pipe if the flag was down; a rearm clears the flag and then drains
the wake pipe.
-/

namespace BatchJob

/-- The flag, and the number of bytes in the wake pipe. -/
structure ShutdownSignal where
  posted : Bool := false
  wakeBytes : Nat := 0
  deriving DecidableEq, Repr

namespace ShutdownSignal

/-- How many bytes the wake pipe holds; a write to a full pipe is dropped. -/
def wakeCapacity : Nat := 65536

/-- First step of a post: raises the flag and answers whether it was up before. -/
def swapPosted (s : ShutdownSignal) : Bool × ShutdownSignal :=
  (s.posted, { s with posted := true })

/-- Second step of a post that found the flag down: writes one byte. -/
def writeWake (s : ShutdownSignal) : ShutdownSignal :=
  { s with wakeBytes := min (s.wakeBytes + 1) wakeCapacity }

/-- First step of a rearm: lowers the flag. -/
def clearPosted (s : ShutdownSignal) : ShutdownSignal :=
  { s with posted := false }

/-- Second step of a rearm: empties the wake pipe. -/
def drainWake (s : ShutdownSignal) : ShutdownSignal :=
  { s with wakeBytes := 0 }

/-- Posts the signal. -/
def post (s : ShutdownSignal) : ShutdownSignal :=
  let (wasPosted, s) := s.swapPosted
  if wasPosted then s else s.writeWake

/-- Makes the signal ready for the next run. -/
def rearm (s : ShutdownSignal) : ShutdownSignal :=
  s.clearPosted.drainWake

/-- Whether a wait on the wake descriptor would return at once. -/
def isReadable (s : ShutdownSignal) : Bool :=
  0 < s.wakeBytes

end ShutdownSignal

end BatchJob
