/-!
# Log lines

The lines that the supervisor logs at the levels an operator sees.
-/

namespace BatchJob

/-- How much a log line matters. -/
inductive LogLevel
  | info
  | warn
  | error
  deriving DecidableEq, Repr

/-- The word a level is written with. -/
def LogLevel.word : LogLevel → String
  | .info => "INFO"
  | .warn => "WARN"
  | .error => "ERROR"

/-- A line of the log. -/
structure LogLine where
  level : LogLevel
  text : String
  deriving DecidableEq, Repr

/-- The written form of a line: the level, a space and the text. -/
def LogLine.render (line : LogLine) : String :=
  line.level.word ++ " " ++ line.text

end BatchJob
