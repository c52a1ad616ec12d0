import BatchJob.IoError
import BatchJob.Signal

/-!
# What the system can refuse

Failures of the calls that set up signal handling and look up the invoking account.
-/

namespace BatchJob

/-- Why signal handling could not be set up. -/
inductive SignalError
  /-- The wake pipe of the shutdown signal could not be created. -/
  | wakePipe (cause : Errno)
  /-- The wake pipe could not be drained. -/
  | drain (cause : IoError)
  | install (signal : Signal) (cause : Errno)
  | mask (cause : Errno)
  deriving DecidableEq, Repr

namespace SignalError

/-- The text of the failure of the system below this one. -/
def cause : SignalError → String
  | wakePipe cause | install _ cause | mask cause => cause.message
  | drain cause => cause.message

/-- The text of a failure. -/
def message (e : SignalError) : String :=
  match e with
  | wakePipe _ => "Error creating the shutdown wake pipe: " ++ e.cause
  | drain _ => "Error draining the shutdown wake pipe: " ++ e.cause
  | install signal _ => "sigaction() failed for " ++ signal.name ++ ": " ++ e.cause
  | mask _ => "pthread_sigmask() failed: " ++ e.cause

/-- The text of a failure, then the text of the failure below it. -/
def chain (e : SignalError) : List String :=
  [e.message, e.cause]

end SignalError

/-- Why the invoking account is not known. -/
inductive AccountError
  /-- The user registry could not be asked. -/
  | lookup (user : Nat) (cause : Errno)
  /-- The user registry has no entry. -/
  | unknown (user : Nat)
  deriving DecidableEq, Repr

namespace AccountError

/-- The text of a failure. -/
def message : AccountError → String
  | lookup user cause => "User registry lookup failed for uid " ++ toString user ++ ": " ++ cause.message
  | unknown user => "No user registry entry for uid " ++ toString user

/-- The text of a failure, then the text of the failure below it, if there is one. -/
def chain (e : AccountError) : List String :=
  match e with
  | lookup _ cause => [e.message, cause.message]
  | unknown _ => [e.message]

end AccountError

end BatchJob
