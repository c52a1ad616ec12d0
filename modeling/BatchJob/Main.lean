import BatchJob.FileSystem.System
import BatchJob.Supervisor

/-!
# The command

Rehearses the job that the command line asks for. The settings, the datasets and the console are read from
the disk before the run, and what the job has written to its datasets is put back after it.
-/

namespace BatchJob.Command

/-- How many steps a rehearsal takes at most. -/
def fuel : Nat := Nat.pow 10 9

/-- Where the system shows a process its own environment. -/
def environmentPath : String := "/proc/self/environ"

/-- The pairs of an environment in which a NUL byte ends each entry. -/
def pairsOf (bytes : Bytes) : List (String × String) :=
  (ProgramPath.splitOn '\x00' (Text.decodeLossy bytes)).filterMap fun entry =>
    Environment.keyValue? (String.ofList entry)

/-- The account that a supervisor with these variables runs under. -/
def accountOf (vars : Variables) : Account where
  name := (vars.get? "USER").getD "root"
  home := (vars.get? "HOME").getD "/"
  shell := (vars.get? "SHELL").getD "/bin/sh"

/-- Puts the content of a file on the disk, if there is one, into the machine. What the machine has already
stays as it is. -/
def load (fs : FileSystem) (path : String) : IO FileSystem := do
  if (fs.lookup path).isOk then return fs
  try
    return fs.install path (.file FileSystem.newFileMode (← IO.FS.readBinFile path))
  catch _ => return fs

/-- Puts a file of the machine onto the disk, if it is not what it was before. -/
def store (before after : FileSystem) (path : String) : IO Unit := do
  match before.contentAt path, after.contentAt path with
  | .ok old, .ok new => unless old == new do IO.FS.writeBinFile path ⟨new.toArray⟩
  | _, .ok new => IO.FS.writeBinFile path ⟨new.toArray⟩
  | _, .error _ => return

/-- Runs the supervisor and puts what it has written onto the disk and the standard streams. -/
def run (args : List String) : IO UInt32 := do
  let vars : Variables := ⟨pairsOf (← IO.FS.readBinFile environmentPath).toList⟩
  let settings :=
    match CommandLine.parse args with
    | .ok line => line.configPath <|> vars.get? Config.fileVariable
    | .error _ => none
  let settled ← settings.toList.foldlM load FileSystem.machine
  let mentioned :=
    match CommandLine.parse args with
    | .error _ => []
    | .ok line =>
      match Supervisor.resolve line settled vars with
      | .error _ => []
      | .ok (config, options) => Supervisor.paths config options vars
  let before ← mentioned.foldlM load settled
  match Supervisor.run fuel args vars (accountOf vars) before with
  | none => return Supervisor.setupFailure.toUInt32
  | some outcome =>
    mentioned.forM (store before outcome.files)
    (← IO.getStdout).write ⟨outcome.standardOutput.toArray⟩
    (← IO.getStderr).putStr outcome.standardError
    return outcome.code.toUInt32

end BatchJob.Command

/-- Runs the supervisor with the arguments of the command line. -/
def main (args : List String) : IO UInt32 :=
  BatchJob.Command.run args
