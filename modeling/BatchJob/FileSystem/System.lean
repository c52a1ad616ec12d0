import BatchJob.FileSystem.Basic

/-!
# The machine's own files

The directories, devices and programs that every job finds, and the working directory it starts in.
-/

namespace BatchJob.FileSystem

/-- The programs of the system, each found in both program directories. -/
def programNames : List String :=
  ["sh", "dash", "bash", "cat", "echo", "env", "sleep", "true", "false", "printf", "wc", "kill", "head",
    "tail", "tr", "sort", "seq", "tee", "pwd", "ls", "test", "rm", "touch", "dd", "yes", "id", "cut", "cp",
    "mv", "mkdir", "printenv", "[", "chmod", "setsid", "nohup"]

/-- The directories in which the system keeps its programs. -/
def programDirectories : List String := ["/bin", "/usr/bin"]

/-- Directories of the system that hold nothing a job uses. -/
def plainDirectories : List (List String) :=
  [["home"], ["lib"], ["usr", "lib"], ["root"], ["tmp"], ["etc"], ["var"]]

/-- A fresh machine with an empty working directory. -/
def machine : FileSystem :=
  let fs := plainDirectories.foldl addDirectories empty
  let fs := ((fs.install "/dev/null" .null).install "/dev/full" .full).install "/dev/zero" .zero
  let fs := programDirectories.foldl (fun fs directory =>
    programNames.foldl (fun fs name => fs.install (directory ++ "/" ++ name) (.program name)) fs) fs
  let work := ["tmp", "job"]
  { fs.addDirectories work with workingDirectory := work }

end BatchJob.FileSystem
