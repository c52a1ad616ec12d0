import BatchJob.Machine.Programs.Blocks
import BatchJob.Machine.Programs.Counting
import BatchJob.Machine.Programs.Cutting
import BatchJob.Machine.Programs.Files
import BatchJob.Machine.Programs.Listing
import BatchJob.Machine.Programs.Passing
import BatchJob.Machine.Programs.Processes
import BatchJob.Machine.Programs.Sorting
import BatchJob.Machine.Programs.Testing
import BatchJob.Machine.Programs.Translation
import BatchJob.Machine.Shell.Invocation

/-!
# The system's programs

The programs that the rehearsed machine can run, by their names.
-/

namespace BatchJob.Machine.Programs

/-- A shell as a program. -/
def shell (dialect : Dialect) : Program := fun call =>
  Shell.program dialect call.name call.arguments call.environment

/-- The program with a name. -/
def program? : String → Option Program
  | "sh" | "dash" => some (shell .standard)
  | "bash" => some (shell .extended)
  | "cat" => some cat
  | "tee" => some tee
  | "yes" => some yes
  | "head" => some head
  | "tail" => some tail
  | "wc" => some wc
  | "seq" => some seq
  | "sort" => some sort
  | "cut" => some cut
  | "tr" => some tr
  | "dd" => some dd
  | "ls" => some ls
  | "rm" => some rm
  | "mkdir" => some mkdir
  | "touch" => some touch
  | "cp" => some cp
  | "mv" => some mv
  | "chmod" => some chmod
  | "echo" => some echo
  | "printf" => some printf
  | "test" => some test
  | "[" => some bracket
  | "env" => some env
  | "printenv" => some printenv
  | "nohup" => some nohup
  | "setsid" => some setsid
  | "sleep" => some sleep
  | "kill" => some kill
  | "pwd" => some pwd
  | "id" => some id
  | "true" => some fun _ => pure ()
  | "false" => some fun _ => Act.exit 1
  | _ => none

/-- The task that a program is, given the name it is called by, its arguments and its environment, all of them texts
of octets. -/
def task (program name : String) (arguments : List String) (environment : List (String × String)) : Task :=
  match program? program with
  | some program => (program { name, arguments, environment }).toTask
  | none => .exit 127

end BatchJob.Machine.Programs
