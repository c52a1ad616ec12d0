import BatchJob.Config.Basic
import BatchJob.Console.Source
import BatchJob.Lifecycle
import BatchJob.Relay.Basic
import BatchJob.SystemError

/-!
# Why a job could not be run

A failure of the main sequence says at which step it happened and what went wrong there. The text of a
failure is the step, followed by the text of the failure and those of its causes.
-/

namespace BatchJob

/-- Why a job has no return code. -/
inductive JobError
  /-- The settings could not be loaded. -/
  | configuration (error : ConfigError)
  /-- The settings do not give run options. -/
  | options (error : ConfigError)
  | console (error : Console.ConsoleError)
  /-- The path of a dataset could not be found out. -/
  | resolving (dataset : String) (error : ConfigError)
  /-- A dataset that is needed could not be opened. -/
  | opening (dataset : String) (error : DatasetError)
  /-- The supervisor's own standard output could not stand in for SYSOUT. -/
  | allocatingOutput (error : DatasetError)
  | creatingPipe (channel : Channel) (cause : Errno)
  /-- The child's end of a pipe could not be split off. -/
  | duplicatingEnd (side : PipeEnd) (cause : IoError)
  | installingHandlers (error : SignalError)
  | lookingUpAccount (error : AccountError)
  | readingEnvironment (error : DatasetError)
  | closingEnvironment (error : DatasetError)
  | maskingChildExit (error : SignalError)
  | startingListener (cause : IoError)
  | spawning (error : LifecycleError)
  | relaying (error : RelayError)
  | reaping (error : LifecycleError)
  | closingInput (error : DatasetError)
  | closingOutputs (error : DatasetError)
  deriving DecidableEq

namespace JobError

/-- The step at which a job failed. -/
def step : JobError → String
  | configuration _ => "Error loading configuration"
  | options _ => "Error resolving run options"
  | console _ => "Error opening the operator console"
  | resolving dataset _ => "Error resolving DD " ++ dataset
  | opening dataset _ => "Error opening DD " ++ dataset
  | allocatingOutput _ => "Error allocating SYSOUT"
  | creatingPipe channel _ => "Error creating the " ++ channel.name ++ " pipe"
  | duplicatingEnd side cause => "Error duplicating the " ++ side.name ++ " end of the pipe: " ++ cause.message
  | installingHandlers _ => "Error installing signal handlers"
  | lookingUpAccount _ => "Error looking up the invoking account"
  | readingEnvironment _ => "Error reading the STDENV dataset"
  | closingEnvironment _ => "Error closing the STDENV dataset"
  | maskingChildExit _ => "Error blocking SIGCHLD"
  | startingListener _ => "Error starting the console listener"
  | spawning _ => "Error spawning the child program"
  | relaying _ => "Error relaying child I/O"
  | reaping _ => "Error reaping the child"
  | closingInput _ => "Error closing the input dataset"
  | closingOutputs _ => "Error closing the output datasets"

/-- The texts of the failure at that step and of its causes, the outermost first. -/
def causes : JobError → List String
  | configuration error | options error | resolving _ error => error.chain
  | console error => error.chain
  | opening _ error | allocatingOutput error | readingEnvironment error | closingEnvironment error
  | closingInput error | closingOutputs error => error.chain
  | creatingPipe _ cause => ["Error creating pipe: " ++ cause.message, cause.message]
  | duplicatingEnd _ cause | startingListener cause => [cause.message]
  | installingHandlers error | maskingChildExit error => error.chain
  | lookingUpAccount error => error.chain
  | spawning error | reaping error => error.chain
  | relaying error => error.chain

/-- The text of a failure. -/
def message (e : JobError) : String :=
  ": ".intercalate (e.step :: e.causes)

end JobError

end BatchJob
