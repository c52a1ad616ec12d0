import BatchJob.FileSystem.Basic

/-!
# Changes of names

The calls that change what names a file system has: removing files and directories, making directories, giving
something another name, and setting permissions. Each reports the error that the system would report.
-/

namespace BatchJob.FileSystem

/-- What a path leads to, or the error number of the failure. -/
def place (fs : FileSystem) (path : String) : Except Errno Location :=
  match fs.locate path with
  | .ok location => .ok location
  | .error (.os e) => .error e
  | .error _ => .error .inval

/-- The full name and the number of the node at a path. -/
def present (fs : FileSystem) (path : String) : Except Errno (List String × NodeId) :=
  match fs.place path with
  | .ok (.node name id) => .ok (name, id)
  | .ok (.absent _) => .error .noent
  | .error e => .error e

/-- The names below a name. -/
def namesBelow (fs : FileSystem) (name : List String) : List (List String) :=
  (fs.names.map Prod.fst).filter fun other => name.isPrefixOf other && name.length < other.length

/-- Takes away a name. -/
def without (fs : FileSystem) (name : List String) : FileSystem :=
  { fs with names := fs.names.filter (·.1 ≠ name) }

/-- Removes a file. -/
def unlink (path : String) (fs : FileSystem) : Except Errno FileSystem := do
  let (name, id) ← fs.present path
  if fs.isDirectory id then throw .isdir
  return fs.without name

/-- Removes an empty directory. -/
def removeDirectory (path : String) (fs : FileSystem) : Except Errno FileSystem := do
  let (name, id) ← fs.present path
  if !fs.isDirectory id then throw .notdir
  if !(fs.namesBelow name).isEmpty then throw .notempty
  return fs.without name

/-- Makes a directory with given permissions. -/
def makeDirectory (path : String) (mode : Nat) (fs : FileSystem) : Except Errno FileSystem := do
  match ← fs.place path with
  | .absent name => return fs.addNamed name (.directory mode)
  | .node .. => throw .exist

/-- Gives something another name, in place of what had it before. -/
def rename (source target : String) (fs : FileSystem) : Except Errno FileSystem := do
  let (name, id) ← fs.present source
  let moved (other : List String) : Except Errno FileSystem := do
    if name.isPrefixOf other && name ≠ other then throw .inval
    if name = other then return fs
    let names := fs.names.filter fun (n, _) => n ≠ other
    return { fs with
      names := names.map fun (n, i) => if name.isPrefixOf n then (other ++ n.drop name.length, i) else (n, i) }
  match ← fs.place target with
  | .absent other =>
    if target.endsWith "/" && !fs.isDirectory id then throw .notdir
    moved other
  | .node other otherId =>
    if fs.isDirectory otherId then
      if !fs.isDirectory id then throw .isdir
      if other ≠ name && !(fs.namesBelow other).isEmpty then throw .notempty
    else if fs.isDirectory id then throw .notdir
    moved other

/-- The permission bits of a node. -/
def modeOf : Node → Nat
  | .file mode _ | .directory mode | .fifo mode _ => mode
  | .program _ => 0o755
  | .channel _ => 0o600
  | .null | .full | .zero => 0o666

/-- A node with other permission bits; those of the system's own stay as they are. -/
def withMode (mode : Nat) : Node → Node
  | .file _ content => .file mode content
  | .directory _ => .directory mode
  | .fifo _ pipe => .fifo mode pipe
  | node => node

/-- Sets the permission bits of what a path leads to. -/
def setMode (path : String) (mode : Nat) (fs : FileSystem) : Except Errno FileSystem := do
  let (_, id) ← fs.present path
  return fs.setNode id (withMode mode (fs.node id))

/-- Cuts a regular file off after some bytes, or fills it up to there with zeros. -/
def truncate (path : String) (size : Nat) (fs : FileSystem) : Except Errno FileSystem := do
  let (_, id) ← fs.present path
  match fs.node id with
  | .file mode content =>
    let gap : ByteArray := ⟨Array.replicate (size - content.size) 0⟩
    return fs.setNode id (.file mode (content.extract 0 size ++ gap))
  | _ => return fs

end BatchJob.FileSystem
