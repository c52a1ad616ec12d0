import BatchJob.Signal

/-!
# How a child ends

The terminal states of a child, what a wait may report about it, and the return code that the job passes
on for each terminal state.
-/

namespace BatchJob

/-- A terminal state: the child called `exit` with a code, or a signal killed it. -/
inductive ChildStatus
  | exited (code : Int32)
  | signaled (signal : Signal)
  deriving DecidableEq

/-- The process number of a child. -/
abbrev Pid := Int32

/-- What one wait may report about a child. -/
inductive WaitReport
  | exited (pid : Pid) (code : Int32)
  | signaled (pid : Pid) (signal : Signal) (coreDumped : Bool)
  | stopped (pid : Pid) (signal : Signal)
  | traceEvent (pid : Pid) (signal : Signal) (event : Int32)
  | traceSyscall (pid : Pid)
  | continued (pid : Pid)
  | stillAlive
  deriving DecidableEq

/-- The child and its terminal state, if the report is about one that has ended. -/
def WaitReport.terminal? : WaitReport → Option (Pid × ChildStatus)
  | .exited pid code => some (pid, .exited code)
  | .signaled pid signal _ => some (pid, .signaled signal)
  | _ => none

namespace ChildStatus

/-- What a shell adds to the number of the signal that killed a command. -/
def signalExitBase : Int32 := 128

/-- The code a shell exits with when SIGTERM has killed its last command. -/
def terminatedExit : Int32 := signalExitBase + Int32.ofNat Signal.term.number

/-- The return code of the job. Being terminated is an intended end, so SIGTERM counts as success in both
of its forms; death by any other signal is reported the way a shell does. -/
def returnCode : ChildStatus → Int32
  | .exited code => if code = terminatedExit then 0 else code
  | .signaled .term => 0
  | .signaled signal => signalExitBase + Int32.ofNat signal.number

end ChildStatus

end BatchJob
