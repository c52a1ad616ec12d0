import BatchJob.Pipe

/-!
# The file system

Named nodes below one root, seen from a working directory, and the two calls a program makes on an open
node: reading and writing at an offset. A node lives on after its name is removed. Regular files, FIFOs,
anonymous pipes, the null, the full and the zero device, and the system's own programs are nodes; `locate`
follows a path and reports the error that the system would report for it.
-/

namespace BatchJob

/-- What a number in the node table stands for. -/
inductive Node
  /-- A directory with its permission bits. -/
  | directory (mode : Nat)
  /-- A regular file with its permission bits and its content. -/
  | file (mode : Nat) (content : ByteArray)
  /-- A named pipe with its permission bits. -/
  | fifo (mode : Nat) (pipe : Pipe)
  /-- An anonymous pipe. -/
  | channel (pipe : Pipe)
  /-- The device that is always empty and takes everything. -/
  | null
  /-- The device that never has room. -/
  | full
  /-- The device that has no end of zeros and takes everything. -/
  | zero
  /-- An executable file that belongs to the system. -/
  | program (name : String)
  deriving Inhabited

/-- The number of a node. -/
abbrev NodeId := Nat

/-- The names and the nodes of a file system. A name is the list of its components below the root. -/
structure FileSystem where
  names : List (List String × NodeId)
  nodes : Array Node
  workingDirectory : List String
  deriving Inhabited

/-- How an open node may be used. -/
inductive Access
  | read
  | write
  | readWrite
  deriving DecidableEq, Repr

/-- An open node: where the next read or write of a regular file happens, and what is allowed. -/
structure OpenFile where
  node : NodeId
  offset : Nat := 0
  access : Access
  deriving DecidableEq, Repr

/-- What a path leads to. -/
inductive Location
  /-- A node that exists, with its full name. -/
  | node (name : List String) (id : NodeId)
  /-- No node, but a directory in which one may be created. -/
  | absent (name : List String)
  deriving DecidableEq, Repr

namespace FileSystem

/-- The longest path, in bytes. -/
def maxPath : Nat := 4095

/-- The longest component of a path, in bytes. -/
def maxComponent : Nat := 255

/-- The permission bits of a new regular file. -/
def newFileMode : Nat := 0o644

/-- The permission bits of a new directory. -/
def newDirectoryMode : Nat := 0o755

/-- The permission bits that allow execution, by the owner, the group or others. -/
def executeBits : Nat := 0o111

/-- The file system with nothing but its root. -/
def empty : FileSystem where
  names := [([], 0)]
  nodes := #[.directory newDirectoryMode]
  workingDirectory := []

/-- The number of the node with a full name. -/
def find? (fs : FileSystem) (name : List String) : Option NodeId :=
  fs.names.lookup name

/-- The node with a number. -/
def node (fs : FileSystem) (id : NodeId) : Node :=
  fs.nodes[id]?.getD .null

/-- Replaces the node with a number. -/
def setNode (fs : FileSystem) (id : NodeId) (node : Node) : FileSystem :=
  { fs with nodes := fs.nodes.setIfInBounds id node }

/-- Adds a node without a name. -/
def addNode (fs : FileSystem) (node : Node) : NodeId × FileSystem :=
  (fs.nodes.size, { fs with nodes := fs.nodes.push node })

/-- Adds a node under a full name, in place of what had this name before. -/
def addNamed (fs : FileSystem) (name : List String) (node : Node) : FileSystem :=
  let (id, fs) := fs.addNode node
  { fs with names := fs.names.filter (·.1 ≠ name) ++ [(name, id)] }

/-- Whether a node is a directory. -/
def isDirectory (fs : FileSystem) (id : NodeId) : Bool :=
  match fs.node id with
  | .directory _ => true
  | _ => false

/-- The pieces of a path between its slashes, empty ones left out. -/
def components (path : String) : List String :=
  (path.splitOn "/").filter (!·.isEmpty)

/-- Follows components from a directory. -/
def walk (fs : FileSystem) (directory : List String) : List String → Except IoError Location
  | [] =>
    match fs.find? directory with
    | some id => .ok (.node directory id)
    | none => .error (.os .noent)
  | "." :: rest => fs.walk directory rest
  | ".." :: rest => fs.walk directory.dropLast rest
  | component :: rest =>
    let name := directory ++ [component]
    if component.utf8ByteSize > maxComponent then .error (.os .nametoolong)
    else
      match fs.find? name with
      | none => if rest.isEmpty then .ok (.absent name) else .error (.os .noent)
      | some id =>
        if rest.isEmpty then .ok (.node name id)
        else if fs.isDirectory id then fs.walk name rest
        else .error (.os .notdir)

/-- The directory from which a path is followed. -/
def startOf (fs : FileSystem) (path : String) : List String :=
  if path.startsWith "/" then [] else fs.workingDirectory

/-- The error of a path that is none. -/
def pathFault? (path : String) : Option IoError :=
  if '\x00' ∈ path.toList then some .nulInPath
  else if path.isEmpty then some (.os .noent)
  else if path.utf8ByteSize > maxPath then some (.os .nametoolong)
  else none

/-- What a path leads to. A path that ends in a slash can only lead to a directory. -/
def locate (fs : FileSystem) (path : String) : Except IoError Location :=
  match pathFault? path, fs.walk (fs.startOf path) (components path) with
  | some e, _ => .error e
  | none, .ok (.node name id) =>
    if path.endsWith "/" && !fs.isDirectory id then .error (.os .notdir) else .ok (.node name id)
  | none, result => result

/-- What a path leads to where a regular file is to be made if nothing is there. If the path ends in a slash,
it names a directory, whether there is one or not. -/
def locateNew (fs : FileSystem) (path : String) : Except IoError Location :=
  let parts := components path
  if (pathFault? path).isNone && path.endsWith "/" && parts.getLast?.any (fun c => c ≠ "." && c ≠ "..") then
    match fs.walk (fs.startOf path) parts.dropLast with
    | .ok (.node _ id) => .error (.os (if fs.isDirectory id then .isdir else .notdir))
    | .ok (.absent _) => .error (.os .noent)
    | .error e => .error e
  else fs.locate path

/-- The node a path leads to. -/
def lookup (fs : FileSystem) (path : String) : Except IoError Node :=
  match fs.locate path with
  | .ok (.node _ id) => .ok (fs.node id)
  | .ok (.absent _) => .error (.os .noent)
  | .error e => .error e

/-- Whether a path leads to a regular file that somebody may execute. -/
def isExecutable (fs : FileSystem) (path : String) : Bool :=
  match fs.lookup path with
  | .ok (.file mode _) => mode &&& executeBits != 0
  | .ok (.program _) => true
  | _ => false

/-- Adds a holder of the sides of a pipe that an access uses. -/
def holdPipe (p : Pipe) : Access → Pipe
  | .read => { p with readDuplicates := p.readDuplicates + 1 }
  | .write => { p with writeDuplicates := p.writeDuplicates + 1 }
  | .readWrite =>
    { p with readDuplicates := p.readDuplicates + 1, writeDuplicates := p.writeDuplicates + 1 }

/-- Drops a holder of the sides of a pipe that an access uses. -/
def releasePipe (p : Pipe) : Access → Pipe
  | .read => p.dropDuplicate .read
  | .write => p.dropDuplicate .write
  | .readWrite => (p.dropDuplicate .read).dropDuplicate .write

/-- Opens the node with a number. -/
def openNode (fs : FileSystem) (id : NodeId) (access : Access) : OpenFile × FileSystem :=
  let file : OpenFile := { node := id, access }
  match fs.node id with
  | .fifo mode pipe => (file, fs.setNode id (.fifo mode (holdPipe pipe access)))
  | .channel pipe => (file, fs.setNode id (.channel (holdPipe pipe access)))
  | _ => (file, fs)

/-- Opens what a path leads to, for reading or, with `access`, for both. -/
def openExisting (fs : FileSystem) (path : String) (access : Access) :
    Except IoError (OpenFile × FileSystem) :=
  match fs.locate path with
  | .ok (.node _ id) => .ok (fs.openNode id access)
  | .ok (.absent _) => .error (.os .noent)
  | .error e => .error e

/-- Opens a path for writing: an existing regular file is emptied, an absent one is created with given permissions. -/
def openCreate (fs : FileSystem) (path : String) (mode : Nat := newFileMode) :
    Except IoError (OpenFile × FileSystem) :=
  match fs.locateNew path with
  | .error e => .error e
  | .ok (.absent name) =>
    let fs := fs.addNamed name (.file mode .empty)
    .ok (fs.openNode (fs.nodes.size - 1) .write)
  | .ok (.node _ id) =>
    match fs.node id with
    | .directory _ => .error (.os .isdir)
    | .program _ => .error (.os .txtbsy)
    | .file mode _ => .ok ((fs.setNode id (.file mode .empty)).openNode id .write)
    | _ => .ok (fs.openNode id .write)

/-- Replaces the bytes of a content from an offset on; a gap before the offset is filled with zeros. -/
def overwrite (content : ByteArray) (offset : Nat) (bytes : Bytes) : ByteArray :=
  let data : ByteArray := ⟨bytes.toArray⟩
  if offset = content.size then content ++ data
  else
    let gap : ByteArray := ⟨Array.replicate (offset - content.size) 0⟩
    (content ++ gap).extract 0 offset ++ data ++ content.extract (offset + data.size) content.size

/-- Reads up to `n` bytes from an open node. -/
def read (fs : FileSystem) (file : OpenFile) (n : Nat) :
    Attempt IoError Bytes × OpenFile × FileSystem :=
  if file.access = .write then (.failed (.os .badf), file, fs)
  else
    match fs.node file.node with
    | .directory _ => (.failed (.os .isdir), file, fs)
    | .file _ content =>
      let bytes := (content.extract file.offset (file.offset + n)).data.toList
      (.done bytes, { file with offset := file.offset + bytes.length }, fs)
    | .fifo mode pipe =>
      let (result, pipe) := pipe.fetch n
      (result, file, fs.setNode file.node (.fifo mode pipe))
    | .channel pipe =>
      let (result, pipe) := pipe.fetch n
      (result, file, fs.setNode file.node (.channel pipe))
    | .full | .zero => (.done (List.replicate n 0), file, fs)
    | .null | .program _ => (.done [], file, fs)

/-- Offers bytes to an open node, which takes some from the start and answers how many. -/
def write (fs : FileSystem) (file : OpenFile) (bytes : Bytes) :
    Attempt IoError Nat × OpenFile × FileSystem :=
  if file.access = .read then (.failed (.os .badf), file, fs)
  else
    match fs.node file.node with
    | .file mode content =>
      let fs := fs.setNode file.node .null
      let content := overwrite content file.offset bytes
      (.done bytes.length, { file with offset := file.offset + bytes.length },
        fs.setNode file.node (.file mode content))
    | .fifo mode pipe =>
      let (result, pipe) := pipe.offer bytes
      (result, file, fs.setNode file.node (.fifo mode pipe))
    | .channel pipe =>
      let (result, pipe) := pipe.offer bytes
      (result, file, fs.setNode file.node (.channel pipe))
    | .full => (if bytes.isEmpty then .done 0 else .failed (.os .nospc), file, fs)
    | .null | .zero => (.done bytes.length, file, fs)
    | .directory _ | .program _ => (.failed (.os .badf), file, fs)

/-- Closes an open node. -/
def close (fs : FileSystem) (file : OpenFile) : FileSystem :=
  match fs.node file.node with
  | .fifo mode pipe => fs.setNode file.node (.fifo mode (releasePipe pipe file.access))
  | .channel pipe => fs.setNode file.node (.channel (releasePipe pipe file.access))
  | _ => fs

/-- Whether a wait for reading from an open node would return at once. -/
def isReadable (fs : FileSystem) (file : OpenFile) : Bool :=
  match fs.node file.node with
  | .fifo _ pipe | .channel pipe => pipe.isReadable
  | _ => true

/-- The whole content of what a path leads to. -/
def contentAt (fs : FileSystem) (path : String) : Except IoError Bytes :=
  match fs.lookup path with
  | .ok (.file _ content) => .ok content.data.toList
  | .ok (.directory _) => .error (.os .isdir)
  | .ok _ => .ok []
  | .error e => .error e

/-- The path of the working directory. -/
def workingPath (fs : FileSystem) : String :=
  "/" ++ "/".intercalate fs.workingDirectory

/-- The names in the directory a path leads to, in order. -/
def namesIn (fs : FileSystem) (path : String) : List String :=
  match fs.locate path with
  | .ok (.node directory _) =>
    (fs.names.filterMap fun (name, _) =>
      if name.dropLast = directory then name.getLast? else none).mergeSort fun a b => a ≤ b
  | _ => []

/-- Takes away the name that a path leads to. -/
def remove (fs : FileSystem) (path : String) : FileSystem :=
  match fs.locate path with
  | .ok (.node name _) => { fs with names := fs.names.filter (·.1 ≠ name) }
  | _ => fs

/-- Adds the directories on the way to a full name, and the last one too, where they are absent. -/
def addDirectories (fs : FileSystem) (name : List String) : FileSystem :=
  (List.range (name.length + 1)).foldl
    (fun fs k => if (fs.find? (name.take k)).isSome then fs
      else fs.addNamed (name.take k) (.directory newDirectoryMode)) fs

/-- Adds a node under a path, with the directories on the way to it. -/
def install (fs : FileSystem) (path : String) (node : Node) : FileSystem :=
  let name := (components path).foldl (fun name component =>
    if component = "." then name
    else if component = ".." then name.dropLast
    else name ++ [component]) (fs.startOf path)
  (fs.addDirectories name.dropLast).addNamed name node

/-- The regular files below the working directory, each with its path from there and its content. -/
def regularFiles (fs : FileSystem) : List (String × Bytes) :=
  fs.names.filterMap fun (name, id) =>
    match fs.workingDirectory.isPrefixOf name, fs.node id with
    | true, .file _ content =>
      some ("/".intercalate (name.drop fs.workingDirectory.length), content.data.toList)
    | _, _ => none

end FileSystem

end BatchJob
