import BatchJob.Channel

/-!
# Relay counters

How many bytes the relay has forwarded on each channel and how often it has waited. The byte counters stop
at the greatest 64-bit number.
-/

namespace BatchJob

/-- The counters of one run. -/
structure RelayStats where
  stdin : Nat := 0
  stdout : Nat := 0
  stderr : Nat := 0
  iterations : Nat := 0
  deriving DecidableEq, Repr

namespace RelayStats

/-- The greatest value of a byte counter. -/
def limit : Nat := UInt64.size - 1

/-- A counter raised by `n`, or its greatest value. -/
def raise (counter n : Nat) : Nat :=
  min (counter + n) limit

/-- Counts bytes on a channel. -/
def add (s : RelayStats) (channel : Channel) (n : Nat) : RelayStats :=
  match channel with
  | .stdin => { s with stdin := raise s.stdin n }
  | .stdout => { s with stdout := raise s.stdout n }
  | .stderr => { s with stderr := raise s.stderr n }

/-- Counts one wait. -/
def countWait (s : RelayStats) : RelayStats :=
  { s with iterations := s.iterations + 1 }

end RelayStats

end BatchJob
