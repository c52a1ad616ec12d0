import BatchJob.Machine.Shell.Expansion

/-!
# Redirections

What a shell does before and after a command whose descriptors are redirected: the words are expanded, what the
descriptors stand for is put aside, they stand for something else while the command runs, and afterwards what was put
aside is put back.
-/

namespace BatchJob.Machine.Shell

/-- A redirection whose word has been expanded. -/
structure Rerouting where
  descriptor : Nat
  kind : RedirectionKind
  target : String
  deriving DecidableEq, Repr

namespace Rerouting

/-- The descriptors that a redirection changes. -/
def descriptors (r : Rerouting) : List Nat :=
  match r.kind with
  | .both _ => [Task.standardOutput, Task.standardError]
  | _ => [r.descriptor]

end Rerouting

/-- What is said of a path that could not be opened. -/
def openComplaint (s : Shell) (manner : OpenManner) (path : String) (e : Errno) : String :=
  let isMissing := e = .noent || e = .notdir
  match s.dialect, manner with
  | .extended, _ => path ++ ": " ++ e.libraryPhrase
  | .standard, .read => "cannot open " ++ path ++ ": " ++ if isMissing then "No such file" else e.libraryPhrase
  | .standard, _ => "cannot create " ++ path ++ ": " ++ if isMissing then "Directory nonexistent" else e.libraryPhrase

/-- The status of a command whose descriptors could not be redirected. -/
def redirectionFailure (s : Shell) : Nat :=
  if s.isExtended then 1 else 2

/-- Expands the word of a redirection. -/
def reroutingOf : Redirection → Deed Rerouting
  | .mk descriptor kind target => do
    let made (target : String) : Deed Rerouting := return { descriptor, kind, target }
    match kind with
    | .document => made (← textOfDocument target)
    | .line => made ((← textOfWord target) ++ "\n")
    | .duplicate =>
      let text ← textOfWord target
      if !(← get).isExtended && text ≠ "-" && (text.length ≠ 1 || text.toNat?.isNone) then
        Deed.refuse "Bad fd number"
      made text
    | _ =>
      if (← get).isExtended then
        match ← fields target with
        | [path] => made path
        | paths => Deed.refuse (" ".intercalate paths ++ ": ambiguous redirect") 1
      else made (← textOfWord target)

/-- The greatest text that a pipe takes at once, in bytes. -/
def pipeSize : Nat := 65536

/-- Lets a descriptor read a text. -/
def provide (descriptor : Nat) (text : String) : Deed Unit := do
  let reader := firstAside + (← get).aside
  let writer := reader + 1
  connect reader writer
  let write : Deed Unit := Act.say writer text
  if text.length ≤ pipeSize then write
  else
    discard <| Deed.fork do
      Act.close reader
      write
  Act.close writer
  discard (Act.duplicate reader descriptor)
  Act.close reader

/-- Opens a path for a descriptor; answers whether that succeeds. -/
def openFor (descriptor : Nat) (path : String) (manner : OpenManner) : Deed Bool := do
  match ← Act.openAt descriptor path manner with
  | none => return true
  | some e =>
    Deed.complain (openComplaint (← get) manner path e)
    return false

/-- Whether a path leads to something that a guarded shell does not empty. -/
def isGuarded (fs : FileSystem) (path : String) : Bool :=
  match fs.lookup (Text.ofOctets path) with
  | .ok (.file ..) | .ok (.program _) => true
  | _ => false

/-- Carries out a redirection; answers whether that succeeds. -/
def reroute (r : Rerouting) : Deed Bool := do
  let s ← get
  match r.kind with
  | .document | .line =>
    provide r.descriptor r.target
    return true
  | .path manner => openFor r.descriptor r.target manner
  | .fresh =>
    if s.isOn "noclobber" && isGuarded (← Act.look) r.target then
      Deed.complain (match s.dialect with
        | .standard => "cannot create " ++ r.target ++ ": File exists"
        | .extended => r.target ++ ": cannot overwrite existing file")
      return false
    else openFor r.descriptor r.target .truncate
  | .both manner =>
    if ← openFor Task.standardOutput r.target manner then
      Act.duplicate Task.standardOutput Task.standardError
    else return false
  | .duplicate =>
    match r.target.toNat? with
    | some source =>
      if ← Act.duplicate source r.descriptor then return true
      else
        Deed.complain (r.target ++ ": Bad file descriptor")
        return false
    | none =>
      if r.target = "-" then
        Act.close r.descriptor
        return true
      else if r.descriptor = Task.standardOutput then
        if ← openFor Task.standardOutput r.target .truncate then
          Act.duplicate Task.standardOutput Task.standardError
        else return false
      else
        Deed.complain (r.target ++ ": ambiguous redirect")
        return false

/-- Carries out redirections up to the first that fails; answers whether none does. -/
def rerouteAll (reroutings : List Rerouting) : Deed Bool := do
  match reroutings with
  | [] => return true
  | r :: rest => if ← reroute r then rerouteAll rest else return false

/-- Puts descriptors aside, each under the number given with it. -/
def putAside (moved : List (Nat × Nat)) : Deed Unit :=
  moved.forM fun (descriptor, aside) => discard (Act.duplicate descriptor aside)

/-- Puts descriptors back in place. One that was not open when it was put aside is closed. -/
def putBack (moved : List (Nat × Nat)) : Deed Unit :=
  moved.forM fun (descriptor, aside) => do
    if ← Act.duplicate aside descriptor then Act.close aside else Act.close descriptor

/-- Where descriptors are put aside that redirections change. -/
def asidePlaces (s : Shell) (reroutings : List Rerouting) : List (Nat × Nat) :=
  (reroutings.flatMap Rerouting.descriptors).eraseDups.mapIdx fun i descriptor =>
    (descriptor, firstAside + s.aside + i)

/-- Does something while descriptors are redirected, and `failed` if they cannot be. -/
def redirected (redirections : List Redirection) (deed failed : Deed Unit) : Deed Unit := do
  match redirections with
  | [] => deed
  | _ =>
    let aside := (← get).aside
    let reroutings ← redirections.mapM reroutingOf
    let s ← get
    let moved := asidePlaces s reroutings
    putAside moved
    modify fun s => { s with aside := s.aside + moved.length }
    let back : Deed Unit := do
      putBack moved
      modify fun s => { s with aside }
    Deed.thenAlways (do if ← rerouteAll reroutings then Deed.inside deed else failed) back

end BatchJob.Machine.Shell
