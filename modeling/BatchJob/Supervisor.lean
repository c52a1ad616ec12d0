import BatchJob.CommandLine
import BatchJob.Machine.Launcher

/-!
# The supervisor

The whole program: from a command line over the settings and the run options to a job, and from there to an
exit code with what was written to the standard streams. A job that could not be run has an exit code of
its own.
-/

namespace BatchJob

/-- What a run of the supervisor leaves behind. -/
structure Outcome where
  code : Int32
  standardOutput : Bytes := []
  standardError : String := ""
  files : FileSystem

namespace Supervisor

/-- The exit code of a job that could not be run. -/
def setupFailure : Int32 := 12

/-- What is written when the version is asked for. -/
def versionText : String := "rktbatch 0.1.0\n"

/-- Whether the variables ask for colours even though no terminal shows them. -/
def isColored (vars : Variables) : Bool :=
  match vars.get? "CLICOLOR_FORCE" with
  | some wish => wish ≠ "0"
  | none => false

/-- The text that reports a failure, with its first word in bold red if it is to be coloured. -/
def report (colored : Bool) (e : JobError) : String :=
  "\n" ++ (if colored then "\x1b[1;31mError\x1b[0m" else "Error") ++ ": " ++ e.message ++ "\n"

/-- The settings and the run options for a command line. -/
def resolve (line : CommandLine) (fs : FileSystem) (vars : Variables) :
    Except JobError (Config × RunOptions) :=
  match Config.discover fs vars line.configPath with
  | .error e => .error (.configuration e)
  | .ok config =>
    match line.runOptions config vars with
    | .error e => .error (.options e)
    | .ok options => .ok (config, options)

/-- The paths that a job may read or write: those of its datasets and of its console, as far as they can be
found out. -/
def paths (config : Config) (options : RunOptions) (vars : Variables) : List String :=
  options.consolePath.toList ++ JobDataset.all.filterMap fun dataset =>
    match config.datasetPath vars dataset.name with
    | .ok path => path
    | .error _ => none

/-- The exit code for the result of a job. -/
def exitCode : Except JobError Int32 → Int32
  | .ok code => code
  | .error _ => setupFailure

/-- What a run leaves behind whose job has a given result. -/
def outcome (vars : Variables) (result : Except JobError Int32) (standardOutput : Bytes)
    (files : FileSystem) : Outcome where
  code := exitCode result
  standardOutput := standardOutput
  standardError :=
    match result with
    | .ok _ => ""
    | .error e => report (isColored vars) e
  files := files

/-- Runs the job that a command line asks for on a machine; absent when the job comes to no end. The fuel
is the number of steps at most. -/
def runJob (fuel : Nat) (line : CommandLine) (vars : Variables) (account : Account) (fs : FileSystem) :
    Option Outcome :=
  match resolve line fs vars with
  | .error e => some (outcome vars (.error e) [] fs)
  | .ok (config, options) =>
    let setting : Rehearsal.Setting := { options, config, vars, account }
    let ending := setting.perform Machine.company fuel fs {}
    ending.result.map fun result =>
      outcome vars result ending.standardOutput ending.files

/-- Runs the supervisor with its arguments on a machine; absent when it comes to no end. The fuel is the
number of steps at most. -/
def run (fuel : Nat) (args : List String) (vars : Variables) (account : Account) (fs : FileSystem) :
    Option Outcome :=
  match CommandLine.parse args with
  | .error .version => some { code := 0, standardOutput := versionText.toUTF8.toList, files := fs }
  | .error e => some { code := Int32.ofNat e.exitCode, files := fs }
  | .ok line => runJob fuel line vars account fs

end Supervisor

end BatchJob
