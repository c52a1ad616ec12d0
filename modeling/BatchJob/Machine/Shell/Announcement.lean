import BatchJob.Machine.Shell.Deed

/-!
# Processes that have ended

What a shell makes of the end of a process that it has started: the status it counts as, and what the shell says of
a process that a signal has killed.
-/

namespace BatchJob.Machine.Shell

/-- The status of a command that ran as a process. -/
def statusOf : ChildStatus → Nat
  | .exited code => (code.toInt % 256).toNat
  | .signaled signal => 128 + signal.number

/-- What a signal that ends a process is called. -/
def signalDescription : Signal → String
  | .hup => "Hangup" | .int => "Interrupt" | .quit => "Quit" | .ill => "Illegal instruction"
  | .trap => "Trace/breakpoint trap" | .abrt => "Aborted" | .bus => "Bus error"
  | .fpe => "Floating point exception" | .kill => "Killed" | .usr1 => "User defined signal 1"
  | .segv => "Segmentation fault" | .usr2 => "User defined signal 2" | .pipe => "Broken pipe"
  | .alrm => "Alarm clock" | .term => "Terminated" | .stkflt => "Stack fault" | .chld => "Child exited"
  | .cont => "Continued" | .stop => "Stopped (signal)" | .tstp => "Stopped"
  | .ttin => "Stopped (tty input)" | .ttou => "Stopped (tty output)" | .urg => "Urgent I/O condition"
  | .xcpu => "CPU time limit exceeded" | .xfsz => "File size limit exceeded"
  | .vtalrm => "Virtual timer expired" | .prof => "Profiling timer expired" | .winch => "Window changed"
  | .io => "I/O possible" | .pwr => "Power failure" | .sys => "Bad system call"

/-- What is said of a process whose end was waited for. -/
def announcement (s : Shell) (pid : Pid) : ChildStatus → Option String
  | .exited _ | .signaled .int | .signaled .pipe => none
  | .signaled signal =>
    match s.dialect with
    | .standard => some (signalDescription signal)
    | .extended =>
      if signal = .term then some (signalDescription signal)
      else some (Deed.located s (toString pid ++ " " ++ signalDescription signal))

namespace Deed

/-- Waits for a process that this one has started. -/
def await (pid : Pid) : Deed ChildStatus := fun _ s k =>
  .await pid fun status => k (status, s)

/-- Says that a signal has killed a process, if it was one. -/
def announce (pid : Pid) (status : ChildStatus) : Deed Unit := do
  match announcement (← get) pid status with
  | some text => Act.complain text
  | none => return

/-- Waits for a process as the whole of a command. -/
def awaitCommand (pid : Pid) : Deed Unit := do
  let status ← await pid
  announce pid status
  done (statusOf status)

end Deed

end BatchJob.Machine.Shell
