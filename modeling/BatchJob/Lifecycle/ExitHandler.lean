import BatchJob.ExitRecord
import BatchJob.IoError

/-!
# The handler for child exits

One signal may stand for several children that have ended. So a run of the handler asks the system for a child
that has ended, without waiting, again and again until there is none left, and records each one. A report about a
child that has not ended is passed over. How many children a run finds depends on how the signals were folded;
`collected` lists the children of any number of runs in the order in which they were recorded.
-/

namespace BatchJob

/-- What the system answers when it is asked for a child that has ended. -/
abbrev WaitAnswer := Except Errno WaitReport

namespace ExitRecord

/-- The reports that one run of the handler takes: those before the first answer that there is no more child, or
that the system cannot tell. -/
def reported : List WaitAnswer → List WaitReport
  | [] => []
  | .error _ :: _ => []
  | .ok .stillAlive :: _ => []
  | .ok report :: answers => report :: reported answers

/-- One run of the handler. -/
def handle (r : ExitRecord) (answers : List WaitAnswer) : ExitRecord :=
  r.collect (reported answers)

/-- Several runs of the handler, each with the answers it gets. -/
def handleAll (r : ExitRecord) (runs : List (List WaitAnswer)) : ExitRecord :=
  runs.foldl handle r

/-- The children that several runs of the handler collect, each with its status. -/
def collected (runs : List (List WaitAnswer)) : List (Pid × ChildStatus) :=
  runs.flatMap fun answers => (reported answers).filterMap WaitReport.terminal?

end ExitRecord

end BatchJob
