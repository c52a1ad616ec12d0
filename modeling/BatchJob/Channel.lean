/-!
# Channels and the stop policy

The three standard streams that the supervisor relays for the child, and how the relay reacts once the
shutdown signal has been posted.
-/

namespace BatchJob

/-- A standard stream of the child. -/
inductive Channel
  /-- From the input dataset to the child. -/
  | stdin
  /-- From the child to the STDOUT dataset or its fallback. -/
  | stdout
  /-- From the child to the STDERR dataset or its fallback. -/
  | stderr
  deriving DecidableEq, Repr

/-- The display name of a channel. -/
def Channel.name : Channel → String
  | .stdin => "stdin"
  | .stdout => "stdout"
  | .stderr => "stderr"

/-- The channels in the order of their descriptors. -/
def Channel.all : List Channel := [.stdin, .stdout, .stderr]

/-- When the relay stops after the shutdown signal. -/
inductive StopPolicy
  /-- On the first wait in which the signal fired and no descriptor was ready. -/
  | signalOnly
  /-- When both output pipes have reached their end of data. -/
  | drainToEof
  deriving DecidableEq, Repr

/-- The name of a policy in the configuration. -/
def StopPolicy.name : StopPolicy → String
  | .signalOnly => "signal-only"
  | .drainToEof => "drain-to-eof"

/-- The policies in the order in which a message lists them. -/
def StopPolicy.all : List StopPolicy := [.signalOnly, .drainToEof]

/-- The policy with a given name. -/
def StopPolicy.ofName? (text : String) : Option StopPolicy :=
  all.find? fun policy => policy.name == text

end BatchJob
