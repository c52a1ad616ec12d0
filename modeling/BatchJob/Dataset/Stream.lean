import BatchJob.ByteQueue
import BatchJob.IoError

/-!
# Dataset streams

What the relay and the main sequence need of a dataset. A stream that is not open is a valid state: it
reads as empty and refuses to be written, so that nothing is lost silently, and callers route around it.
-/

namespace BatchJob

/-- The direction a dataset is opened in. -/
inductive OpenMode
  | read
  | write
  deriving DecidableEq, Repr

/-- The display name of a direction. -/
def OpenMode.name : OpenMode → String
  | .read => "Read"
  | .write => "Write"

/-- Why an operation on a dataset failed. -/
inductive DatasetError
  | unallocated (dataset : String)
  | open (dataset path : String) (cause : IoError)
  | notOpen (dataset : String)
  | wrongMode (dataset : String) (mode : OpenMode)
  | read (dataset : String) (cause : IoError)
  | write (dataset : String) (cause : IoError)
  deriving DecidableEq, Repr

namespace DatasetError

/-- The text of a failure. -/
def message : DatasetError → String
  | unallocated dataset => "DD " ++ dataset ++ " is not allocated"
  | .open dataset path cause => "Error opening DD " ++ dataset ++ " (" ++ path ++ "): " ++ cause.message
  | notOpen dataset => "DD " ++ dataset ++ " is not open"
  | wrongMode dataset mode =>
    "DD " ++ dataset ++ " was opened for " ++ mode.name ++ " and cannot be used that way"
  | read dataset cause => "Error reading from DD " ++ dataset ++ ": " ++ cause.message
  | write dataset cause => "Error writing to DD " ++ dataset ++ ": " ++ cause.message

/-- The failure of the system below this one, if there is one. -/
def cause? : DatasetError → Option IoError
  | .open _ _ cause => some cause
  | read _ cause => some cause
  | write _ cause => some cause
  | unallocated _ | notOpen _ | wrongMode _ _ => none

/-- The text of a failure, then the text of the failure below it, if there is one. -/
def chain (e : DatasetError) : List String :=
  e.message :: e.cause?.toList.map IoError.message

end DatasetError

/-- A dataset as a stream. Its own state is a `δ`, and its calls may use and change a machine `ω` that it
shares with others. -/
class DatasetStream (ω δ : Type) where
  /-- The name under which the dataset is allocated. -/
  name : δ → String
  /-- Whether the stream is open. -/
  isOpen : δ → Bool
  /-- Reads up to a number of bytes; no byte at all is the end of the data. -/
  read : Nat → δ → ω → Attempt DatasetError Bytes × δ × ω
  /-- Writes all of the given bytes. -/
  write : Bytes → δ → ω → Except DatasetError Unit × δ × ω
  /-- Passes on what is buffered and releases the stream. -/
  close : δ → ω → Except DatasetError Unit × δ × ω
  /-- Whether the descriptor to wait on before the next read is ready; absent when a read does not have
  to wait. -/
  poll : δ → ω → Option Bool

end BatchJob
