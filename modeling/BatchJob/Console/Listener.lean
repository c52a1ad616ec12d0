import BatchJob.Console.Source
import BatchJob.Lifecycle

/-!
# The console listener

Serves what the console gives until its first failure. Only STOP has an effect on the job; a STOP that
cannot be carried out is logged and does not end the listener.
-/

namespace BatchJob.Console

/-- What one call to a console gives. -/
abbrev Reply := Except ConsoleError Command

variable {σ : Type}

/-- What is logged when a STOP arrives. -/
def stopReceived : String := "Operator STOP received; terminating the child"

/-- Logs a STOP that could not be carried out. -/
def stopFailed (s : Lifecycle σ) (e : LifecycleError) : Lifecycle σ :=
  s.logged .warn ("STOP could not terminate the child: " ++ e.message)

/-- Serves one command. -/
def serve (L : Launcher σ) (s : Lifecycle σ) : Command → Lifecycle σ
  | .stop =>
    match (s.logged .info stopReceived).requestEnd L .term with
    | (.ok _, s) => s
    | (.error e, s) => stopFailed s e
  | .modify text => s.logged .info ("Operator MODIFY ignored: '" ++ text ++ "'")
  | .unrecognized text => s.logged .warn ("Unrecognised operator command: '" ++ text ++ "'")

/-- Takes leave after a failure of the console; one that was never there is passed over in silence. -/
def takeLeave (s : Lifecycle σ) : ConsoleError → Lifecycle σ
  | .unavailable => s
  | e => s.logged .warn ("Console listener exiting: " ++ e.message)

/-- Serves replies up to the first failure and answers those that follow it. When no reply is left, the
console is closed. -/
def listen (L : Launcher σ) (s : Lifecycle σ) : List Reply → Lifecycle σ × List Reply
  | [] => (takeLeave s .closed, [])
  | .error e :: rest => (takeLeave s e, rest)
  | .ok command :: rest => listen L (serve L s command) rest

/-- The replies of an open console up to the first failure, as long as none has to be waited for. The fuel
is their number at most. -/
def Source.replies (fuel : Nat) (s : Source) (fs : FileSystem) : List Reply :=
  match fuel with
  | 0 => []
  | fuel + 1 =>
    match s.next fs with
    | (.done command, s, fs) => .ok command :: s.replies fuel fs
    | (.failed e, _, _) => [.error e]
    | (.blocked, _, _) => []

/-- All replies of an open console up to the first failure. -/
def Source.allReplies (s : Source) (fs : FileSystem) : List Reply :=
  s.replies (s.available fs + 1) fs

end BatchJob.Console
