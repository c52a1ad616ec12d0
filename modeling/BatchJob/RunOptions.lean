import BatchJob.Channel

/-!
# Run options

Everything that shapes one run, once the command line and the settings have been merged.
-/

namespace BatchJob

/-- How a job is to be run. -/
structure RunOptions where
  /-- The program and its arguments; without any word, the login shell. -/
  program : List String
  disableConsole : Bool
  consolePath : Option String
  stopPolicy : StopPolicy
  bufferSize : Nat
  deriving DecidableEq, Repr

end BatchJob
