import BatchJob.Relay.Basic

/-!
# The books of a run

What a run has moved so far, read off the history of its calls: the bytes it has read from the input, and
for each output channel the bytes it has passed to the channel's sink and those of them that the sink has
taken. Beside them stand the two places where bytes of an output can be on their way: the chunk that is
held between the read from the pipe and the write to the sink (`held`), and the chunk with which a run has
failed (`dropped`).
-/

namespace BatchJob

namespace RelayCall

/-- The bytes that a call has read from the input. -/
def got : RelayCall → Bytes
  | .read (.ok bytes) => bytes
  | _ => []

/-- The bytes that a call has passed to the sink of a channel, whatever came of it. -/
def offered (c : OutputChannel) : RelayCall → Bytes
  | .write channel _ chunk _ => if channel = c then chunk else []
  | _ => []

/-- The bytes that the sink of a channel has taken with a call. -/
def delivered (c : OutputChannel) : RelayCall → Bytes
  | .write channel _ chunk (.ok ()) => if channel = c then chunk else []
  | _ => []

/-- The bytes of a channel that were lost with a call, because it failed. -/
def lost (c : OutputChannel) : RelayCall → Bytes
  | .write channel _ chunk (.error _) => if channel = c then chunk else []
  | _ => []

/-- The bytes that a destination has taken with a call. -/
def stored (place : Destination) : RelayCall → Bytes
  | .write _ destination chunk (.ok ()) => if destination = place then chunk else []
  | _ => []

/-- Whether a call is a read. -/
def isRead : RelayCall → Bool
  | .read _ => true
  | _ => false

/-- Whether a call is a write. -/
def isWrite : RelayCall → Bool
  | .write .. => true
  | _ => false

theorem got_eq_nil {call : RelayCall} (h : call.isRead = false) : call.got = [] := by
  cases call with
  | read => cases h
  | write | close => rfl

theorem offered_eq_nil {call : RelayCall} (c : OutputChannel) (h : call.isWrite = false) :
    call.offered c = [] := by
  cases call with
  | write => cases h
  | read | close => rfl

/-- What is offered is delivered or lost. -/
theorem offered_eq (c : OutputChannel) (call : RelayCall) :
    call.offered c = call.delivered c ++ call.lost c := by
  cases call with
  | read => rfl
  | write channel place chunk result =>
    cases result with
    | ok => exact (List.append_nil _).symm
    | error e => rfl
  | close => rfl

theorem delivered_eq_nil {call : RelayCall} (c : OutputChannel) (h : call.isWrite = false) :
    call.delivered c = [] :=
  (List.append_eq_nil_iff.mp ((offered_eq c call).symm.trans (offered_eq_nil c h))).1

end RelayCall

/-- The value of one byte counter. -/
def RelayStats.counter (s : RelayStats) : Channel → Nat
  | .stdin => s.stdin
  | .stdout => s.stdout
  | .stderr => s.stderr

namespace RelayStats

@[simp] theorem counter_add (s : RelayStats) (channel : Channel) (n : Nat) :
    (s.add channel n).counter channel = raise (s.counter channel) n := by
  cases channel <;> rfl

theorem counter_add_ne {channel other : Channel} (h : other ≠ channel) (s : RelayStats) (n : Nat) :
    (s.add channel n).counter other = s.counter other := by
  cases channel <;> cases other <;> first | rfl | exact absurd rfl h

/-- A counter that stands for a length goes on standing for it. -/
theorem raise_min (length n : Nat) : raise (min length limit) n = min (length + n) limit := by
  unfold raise
  omega

end RelayStats

theorem OutputChannel.toChannel_ne {c c' : OutputChannel} (h : c' ≠ c) : c'.toChannel ≠ c.toChannel := by
  cases c <;> cases c' <;> first | exact absurd rfl h | exact Channel.noConfusion

namespace Relay

variable {ω ι δ : Type}

/-- What the calls of a run have moved, in order, `part` being what each of them has moved. -/
def total (part : RelayCall → Bytes) (r : Relay ω ι δ) : Bytes :=
  r.history.reverse.flatMap part

/-- What a run has read from the input. -/
def inputRead (r : Relay ω ι δ) : Bytes := r.total RelayCall.got

/-- What a run has passed to the sink of a channel. -/
def offered (r : Relay ω ι δ) (c : OutputChannel) : Bytes := r.total (RelayCall.offered c)

/-- What the sink of a channel has taken. -/
def delivered (r : Relay ω ι δ) (c : OutputChannel) : Bytes := r.total (RelayCall.delivered c)

/-- What a destination has taken. -/
def stored (r : Relay ω ι δ) (place : Destination) : Bytes := r.total (RelayCall.stored place)

/-- The chunk of a channel that is held by the task about to be carried out. -/
def heldBy (c : OutputChannel) : List RelayTask → Bytes
  | .deliver channel chunk :: _ => if channel = c then chunk else []
  | _ => []

/-- The chunk of a channel that was read from its pipe and not yet passed to its sink. -/
def held (r : Relay ω ι δ) (c : OutputChannel) : Bytes := heldBy c r.agenda

/-- The chunk of a channel with which the run has failed. -/
def dropped (r : Relay ω ι δ) (c : OutputChannel) : Bytes :=
  (r.history.head?.map (RelayCall.lost c)).getD []

@[simp] theorem total_noted (part : RelayCall → Bytes) (r : Relay ω ι δ) (call : RelayCall) :
    (r.noted call).total part = r.total part ++ part call := by
  simp [total, noted]

end Relay

end BatchJob
