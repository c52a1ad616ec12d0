import BatchJob.Dataset
import BatchJob.Job.Error
import BatchJob.RunOptions

/-!
# Preparing a job

What happens before a child is started: the five datasets are resolved and opened, the plumbing is laid,
and the child's environment is built from the account and the STDENV dataset. A step that fails ends the
preparation; what earlier steps did to the files stays done.

A dataset that is not allocated, does not exist or cannot be opened stays unopened. SYSOUT alone is always
open: in place of one that is not, it stands for the supervisor's own standard output.
-/

namespace BatchJob

/-- A dataset of a job. -/
inductive JobDataset
  /-- What the child reads. -/
  | stdin
  | stdout
  | stderr
  /-- The text that adds to the child's environment. -/
  | stdenv
  /-- What takes the child's output where there is no other place for it. -/
  | sysout
  deriving DecidableEq, Repr

namespace JobDataset

/-- The datasets of a job, in the order in which they are opened. -/
def all : List JobDataset := [sysout, stdin, stdout, stderr, stdenv]

/-- The name under which a dataset is allocated. -/
def name : JobDataset → String
  | stdin => "STDIN"
  | stdout => "STDOUT"
  | stderr => "STDERR"
  | stdenv => "STDENV"
  | sysout => "SYSOUT"

end JobDataset

/-- What the steps of a preparation work on: the files, and the lines logged so far, the last one first. -/
structure Desk where
  files : FileSystem
  log : List LogLine := []

/-- A step of a preparation. -/
abbrev Preparing := ExceptT JobError (StateM Desk)

namespace Preparing

/-- A result that is there already. -/
def ofExcept {ε α : Type} (wrap : ε → JobError) : Except ε α → Preparing α
  | .ok a => pure a
  | .error e => throw (wrap e)

/-- Resolves and opens a dataset that a job can do without. -/
def openDataset (config : Config) (vars : Variables) (dataset : JobDataset) (mode : OpenMode) :
    Preparing Dataset := do
  let path ← ofExcept (.resolving dataset.name) (config.datasetPath vars dataset.name)
  let desk ← get
  let (dataset, lines, files) ←
    ofExcept (.opening dataset.name) (Dataset.openAt desk.files dataset.name path mode false)
  set { desk with files, log := lines.reverse ++ desk.log }
  return dataset

/-- Opens SYSOUT, or lets the supervisor's standard output stand in for it. -/
def openSystemOutput (config : Config) (vars : Variables) (standardOutput : OpenFile) :
    Preparing Dataset := do
  let dataset ← openDataset config vars .sysout .write
  if dataset.isOpen then return dataset
  else return .ofFile JobDataset.sysout.name standardOutput .write

/-- Reads all of the STDENV dataset and closes it. -/
def readEnvironment (dataset : Dataset) : Preparing (Option String) := do
  let desk ← get
  let (result, dataset, files) := dataset.readText desk.files
  let text ← ofExcept .readingEnvironment result
  let (result, _, files) := dataset.close files
  set { desk with files }
  ofExcept .closingEnvironment result
  return text

/-- All steps of a preparation; gives the relay that is about to start and the child's environment. -/
def prepare (options : RunOptions) (config : Config) (vars : Variables) (account : Account)
    (standardOutput : OpenFile) : Preparing (Relay FileSystem Dataset Dataset × Environment) := do
  let fallback ← openSystemOutput config vars standardOutput
  let input ← openDataset config vars .stdin .read
  let stdout ← openDataset config vars .stdout .write
  let stderr ← openDataset config vars .stderr .write
  let stdenv ← openDataset config vars .stdenv .read
  let text ← readEnvironment stdenv
  let desk ← get
  let relay := Relay.create Plumbing.fresh desk.files input { stdout, stderr, fallback }
    options.stopPolicy options.bufferSize
  return (relay, Environment.build account text)

end Preparing

namespace RunOptions

/-- The console to listen on: none when commands are disabled or no path is named. -/
def openConsole (options : RunOptions) (fs : FileSystem) :
    Except JobError (Option Console.Source × FileSystem) :=
  match options.disableConsole, options.consolePath with
  | false, some path =>
    match Console.Source.openAt fs path with
    | .ok (source, fs) => .ok (some source, fs)
    | .error e => .error (.console e)
  | _, _ => .ok (none, fs)

end RunOptions

end BatchJob
