import BatchJob.Channel
import BatchJob.Dataset.Stream

/-!
# Output routes

Where the child's output goes: each output channel has a primary destination, and both share a fallback
that takes their bytes while the primary is not open.
-/

namespace BatchJob

/-- One of the three output datasets. -/
inductive Destination
  | stdout
  | stderr
  | fallback
  deriving DecidableEq, Repr

/-- The three output datasets. -/
structure OutputRoutes (δ : Type) where
  stdout : δ
  stderr : δ
  fallback : δ
  deriving DecidableEq, Repr

namespace OutputRoutes

variable {ω δ : Type}

/-- The dataset at a destination. -/
def get (routes : OutputRoutes δ) : Destination → δ
  | .stdout => routes.stdout
  | .stderr => routes.stderr
  | .fallback => routes.fallback

/-- Replaces the dataset at a destination. -/
def set (routes : OutputRoutes δ) (destination : Destination) (dataset : δ) : OutputRoutes δ :=
  match destination with
  | .stdout => { routes with stdout := dataset }
  | .stderr => { routes with stderr := dataset }
  | .fallback => { routes with fallback := dataset }

/-- The primary destination of a channel. -/
def primary : Channel → Destination
  | .stderr => .stderr
  | .stdout | .stdin => .stdout

/-- The destination of a channel: its primary one if that is open, else the fallback. -/
def sink (ω : Type) [DatasetStream ω δ] (routes : OutputRoutes δ) (channel : Channel) : Destination :=
  if DatasetStream.isOpen ω (routes.get (primary channel)) then primary channel else .fallback

variable [DatasetStream ω δ]

/-- Writes bytes to one destination. -/
def writeTo (routes : OutputRoutes δ) (destination : Destination) (bytes : Bytes) (machine : ω) :
    Except DatasetError Unit × OutputRoutes δ × ω :=
  let (result, dataset, machine) := DatasetStream.write bytes (routes.get destination) machine
  (result, routes.set destination dataset, machine)

/-- Closes one destination. -/
def closeAt (routes : OutputRoutes δ) (destination : Destination) (machine : ω) :
    Except DatasetError Unit × OutputRoutes δ × ω :=
  let (result, dataset, machine) := DatasetStream.close (routes.get destination) machine
  (result, routes.set destination dataset, machine)

/-- The first of two failures, if there is one. -/
def firstFailure (a b : Except DatasetError Unit) : Except DatasetError Unit :=
  match a with
  | .ok () => b
  | .error e => .error e

/-- Closes every destination, also after a failure; answers the first failure. -/
def closeAll (routes : OutputRoutes δ) (machine : ω) :
    Except DatasetError Unit × OutputRoutes δ × ω :=
  let (stdout, routes, machine) := routes.closeAt .stdout machine
  let (stderr, routes, machine) := routes.closeAt .stderr machine
  let (fallback, routes, machine) := routes.closeAt .fallback machine
  (firstFailure stdout (firstFailure stderr fallback), routes, machine)

end OutputRoutes

end BatchJob
