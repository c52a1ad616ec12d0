import BatchJob.Machine.Shell.Builtin.Control
import BatchJob.Machine.Shell.Builtin.Jobs
import BatchJob.Machine.Shell.Builtin.Options
import BatchJob.Machine.Shell.Builtin.System
import BatchJob.Machine.Shell.Builtin.Variables

/-!
# The commands of the shell itself by their names
-/

namespace BatchJob.Machine.Shell

namespace Builtin

/-- A command that does nothing but succeed or fail. -/
def constant (status : Nat) : Builtin := fun _ =>
  Deed.done status

/-- Says that there is no job to go on with. -/
def resumeJob (command : String) : Builtin := fun arguments => do
  let s ← get
  let name := arguments.headD "%"
  fault command (noJob s name) "no job control"

/-- The commands of both dialects. -/
def shared? : String → Option Builtin
  | ":" | "true" => some (constant 0)
  | "false" => some (constant 1)
  | "." => some (source ".")
  | "[" => some (test "[" Condition.evaluateBracketed)
  | "test" => some (test "test" Condition.evaluate)
  | "alias" => some setAliases
  | "bg" => some (resumeJob "bg")
  | "break" => some (leapTo "break" .breakOut)
  | "cd" => some changeDirectory
  | "continue" => some (leapTo "continue" .nextRound)
  | "echo" => some echo
  | "eval" => some evaluate
  | "exit" => some exit
  | "export" => some exportAll
  | "fg" => some (resumeJob "fg")
  | "getopts" => some getopts
  | "hash" => some showFound
  | "jobs" => some showJobs
  | "kill" => some kill
  | "local" => some keepLocal
  | "printf" => some printf
  | "pwd" => some showDirectory
  | "read" => some read
  | "readonly" => some readonly
  | "return" => some returnFrom
  | "set" => some (adjust showAll)
  | "shift" => some shift
  | "times" => some showTimes
  | "trap" => some trap
  | "type" => some describeAll
  | "ulimit" => some showLimits
  | "umask" => some mask
  | "unalias" => some unalias
  | "unset" => some unset
  | "wait" => some wait
  | _ => none

/-- The commands of one dialect only. -/
def further? : Dialect → String → Option Builtin
  | .standard, "chdir" => some changeDirectory
  | .extended, "declare" => some (declareAll "declare")
  | .extended, "let" => some evaluateAll
  | .extended, "mapfile" => some mapFile
  | .extended, "readarray" => some mapFile
  | .extended, "shopt" => some shopt
  | .extended, "source" => some (source "source")
  | .extended, "typeset" => some (declareAll "typeset")
  | _, _ => none

end Builtin

/-- The command of the shell itself with a name. -/
def builtin? (dialect : Dialect) (name : String) : Option Builtin :=
  (Builtin.shared? name).orElse fun _ => Builtin.further? dialect name

end BatchJob.Machine.Shell
