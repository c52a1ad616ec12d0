import BatchJob.FileSystem.Changes
import BatchJob.Machine.Permissions
import BatchJob.Machine.Programs.Basic

/-!
# Programs that change files

The programs that remove, make, copy and move files and directories and set their permissions. What cannot be done to
one operand is said, and the program goes on with the next.
-/

namespace BatchJob.Machine.Programs

/-- Changes names in the file system. -/
def change (call : FileSystem → Except Errno FileSystem) : Act (Option Errno) :=
  Act.alter call

/-- A path as the file system has it. -/
def decoded (path : String) : String :=
  Text.ofOctets path

/-- Whether a question that is asked on the standard error is answered with yes. -/
def confirm (call : Call) (question : String) : Act Bool := do
  Act.say Task.standardError (call.name ++ ": " ++ question ++ "? ")
  let (answer, _) ← Act.readLine Task.standardInput
  return answer.toList.head?.any fun c => c == 'y' || c == 'Y'

/-- What a node is, in words. -/
def described : Node → String
  | .directory _ => "directory"
  | .fifo .. | .channel _ => "fifo"
  | .file _ content => if content.size = 0 then "regular empty file" else "regular file"
  | .program _ => "regular file"
  | .null | .full | .zero => "character special file"

/-- A name in a directory as a path. -/
def inside (directory name : String) : String :=
  if directory.endsWith "/" then directory ++ name else directory ++ "/" ++ name

/-- The names in a directory, as paths. -/
def pathsIn (fs : FileSystem) (directory : String) : List String :=
  (fs.namesIn (decoded directory)).map fun name => inside directory (Text.toOctets name)

/-! ## Removing -/

/-- How something is removed. -/
structure Removal where
  forces : Bool
  isRecursive : Bool
  removesEmpty : Bool
  isVerbose : Bool
  asks : Bool

/-- Removes what a path leads to; answers whether that succeeds. The fuel bounds the depth. -/
def remove (call : Call) (how : Removal) (fuel : Nat) (path : String) : Act Bool := do
  match fuel with
  | 0 => return false
  | fuel + 1 =>
    let failed (e : Errno) : Act Bool := do
      remark call ("cannot remove " ++ Named.quoted path ++ ": " ++ e.libraryPhrase)
      return false
    let done (word : String) (result : Option Errno) : Act Bool := do
      match result with
      | some e => failed e
      | none =>
        if how.isVerbose then write call (word ++ Named.quoted path ++ "\n")
        return true
    let fs ← Act.look
    match nodeAt fs path with
    | .error e => if how.forces && (e = .noent || e = .notdir) then return true else failed e
    | .ok (.directory _) =>
      if how.isRecursive then
        let paths := pathsIn fs path
        if how.asks && !paths.isEmpty then
          if !(← confirm call ("descend into directory " ++ Named.quoted path)) then return true
        let mut isFine := true
        for inner in paths do
          if !(← remove call how fuel inner) then isFine := false
        if !isFine then return false
        if how.asks then
          if !(← confirm call ("remove directory " ++ Named.quoted path)) then return true
        done "removed directory " (← change (FileSystem.removeDirectory (decoded path)))
      else if how.removesEmpty then done "removed directory " (← change (FileSystem.removeDirectory (decoded path)))
      else failed .isdir
    | .ok node =>
      if how.asks then
        if !(← confirm call ("remove " ++ described node ++ " " ++ Named.quoted path)) then return true
      done "removed " (← change (FileSystem.unlink (decoded path)))

/-- Removes files, and directories if asked to. -/
def rm : Program := fun call => do
  let (options, paths) ← takeOptions call
    [flag "f force", flag "i", flag "I", maybeValued "interactive", flag "r R recursive", flag "d dir",
      flag "v verbose", flag "one-file-system", flag "no-preserve-root", maybeValued "preserve-root"]
  let how : Removal :=
    { forces := options.has "f", isRecursive := options.has "r", removesEmpty := options.has "d"
      isVerbose := options.has "v", asks := options.last? ["f", "i"] = some "i" }
  if paths.isEmpty then
    if how.forces then Act.exit 0 else missingOperand call "operand" []
  let mut status := 0
  for path in paths do
    let last := lastComponent path
    let depth := (← Act.look).names.length + 1
    if how.isRecursive && path.toList.all (· == '/') && !path.isEmpty then
      remark call "it is dangerous to operate recursively on '/'"
      remark call "use --no-preserve-root to override this failsafe"
      status := 1
    else if how.isRecursive && (last = "." || last = "..") then
      remark call ("refusing to remove '.' or '..' directory: skipping " ++ Named.quoted path)
      status := 1
    else if !(← remove call how depth path) then
      status := 1
  Act.exit status

/-! ## Making -/

/-- Makes a directory and, if asked to, those on the way to it. Answers why that fails, with the path. -/
def makeWithParents (call : Call) (isVerbose : Bool) (mode : Nat) (path : String) : Act (Option (String × Errno)) := do
  let bits ← Act.mask
  let parts := FileSystem.components path
  let start := if path.startsWith "/" then "/" else ""
  let mut fault := none
  for k in List.range parts.length do
    let place := start ++ "/".intercalate (parts.take (k + 1))
    let isLast := k + 1 = parts.length
    if fault.isNone then
      match nodeAt (← Act.look) place with
      | .ok (.directory _) => pure ()
      | .ok _ => fault := some (place, if isLast then .exist else .notdir)
      | .error _ =>
        let mode := if isLast then mode else Permissions.without 0o777 bits ||| 0o300
        match ← change (FileSystem.makeDirectory (decoded place) mode) with
        | some e => fault := some (place, e)
        | none => if isVerbose then write call (call.name ++ ": created directory " ++ Named.quoted place ++ "\n")
  return fault

/-- Makes directories. -/
def mkdir : Program := fun call => do
  let (options, paths) ← takeOptions call
    [flag "p parents", valued "m mode", flag "v verbose", flag "Z", maybeValued "context"]
  if paths.isEmpty then missingOperand call "operand" []
  let bits ← Act.mask
  let usual := Permissions.without 0o777 bits
  let mode ← match options.value? "m" with
    | none => pure usual
    | some text =>
      match Permissions.changed? true bits 0o777 text with
      | some mode => pure mode
      | none => fail call 1 ("invalid mode " ++ Named.quoted text)
  let mut status := 0
  for path in paths do
    let fault ← if options.has "p" && !path.isEmpty then makeWithParents call (options.has "v") mode path
      else do
        match ← change (FileSystem.makeDirectory (decoded path) mode) with
        | some e => pure (some (path, e))
        | none =>
          if options.has "v" then write call (call.name ++ ": created directory " ++ Named.quoted path ++ "\n")
          pure none
    match fault with
    | none => pure ()
    | some (place, e) =>
      remark call ("cannot create directory " ++ Named.quoted place ++ ": " ++ e.libraryPhrase)
      status := 1
  Act.exit status

/-- Opens files, so that they are there. -/
def touch : Program := fun call => do
  let (options, files) ← takeOptions call
    [flag "a", flag "c no-create", valued "d date", flag "f", flag "h no-dereference", flag "m", valued "r reference",
      valued "t", valued "time"]
  match options.value? "r" with
  | none => pure ()
  | some path =>
    match nodeAt (← Act.look) path with
    | .ok _ => pure ()
    | .error e => fail call 1 ("failed to get attributes of " ++ Named.quoted path ++ ": " ++ e.libraryPhrase)
  if files.isEmpty then missingOperand call "file operand" []
  let mut status := 0
  for file in files do
    if file ≠ "-" && !isDirectory (← Act.look) file && !(options.has "c" && !isThere (← Act.look) file) then
      match ← Act.openAt targetDescriptor file .append with
      | none => Act.close targetDescriptor
      | some .isdir =>
        remark call ("setting times of " ++ Named.quoted file ++ ": " ++ Errno.noent.libraryPhrase)
        status := 1
      | some e =>
        remark call ("cannot touch " ++ Named.quoted file ++ ": " ++ e.libraryPhrase)
        status := 1
  Act.exit status

/-! ## Copying and moving -/

/-- How files are copied or moved. -/
structure Transfer where
  isRecursive : Bool := false
  keepsMode : Bool := false
  isVerbose : Bool := false
  /-- Whether what is there stays. -/
  isCautious : Bool := false
  asks : Bool := false
  /-- Whether an existing directory is taken for the target itself. -/
  isExact : Bool := false

/-- The number of the node at a path. -/
def nodeNumber? (fs : FileSystem) (path : String) : Option NodeId :=
  match locate fs path with
  | .ok (.node _ id) => some id
  | _ => none

/-- Copies the data of a file; answers whether that succeeds. -/
def copyData (call : Call) (how : Transfer) (source target : String) (node : Node) : Act Bool := do
  let isNew := !isThere (← Act.look) target
  let say (text : String) : Act Bool := do
    remark call text
    return false
  match ← Act.openAt sourceDescriptor source .read with
  | some e => say ("cannot open " ++ Named.quoted source ++ " for reading: " ++ e.libraryPhrase)
  | none =>
    match ← Act.openAt targetDescriptor target .truncate with
    | some e =>
      Act.close sourceDescriptor
      let e := if target.endsWith "/" && e = .isdir then Errno.notdir else e
      say ("cannot create regular file " ++ Named.quoted target ++ ": " ++ e.libraryPhrase)
    | none =>
      let fault ← Act.copy sourceDescriptor targetDescriptor
      Act.close sourceDescriptor
      Act.close targetDescriptor
      match fault with
      | some (.read e) => say ("error reading " ++ Named.quoted source ++ ": " ++ e.libraryPhrase)
      | some (.write e) => say ("error writing " ++ Named.quoted target ++ ": " ++ e.libraryPhrase)
      | none =>
        let bits ← Act.mask
        let mode := FileSystem.modeOf node % 0o1000
        if how.keepsMode then
          discard (change (FileSystem.setMode (decoded target) (FileSystem.modeOf node)))
        else if isNew then
          discard (change (FileSystem.setMode (decoded target) (Permissions.without mode bits)))
        return true

/-- Whether an existing target may be replaced. -/
def mayReplace (call : Call) (how : Transfer) (target : String) : Act Bool := do
  if !isThere (← Act.look) target then return true
  if how.isCautious then
    if call.name.endsWith "mv" then remark call ("not replacing " ++ Named.quoted target)
    return false
  if how.asks then confirm call ("overwrite " ++ Named.quoted target) else return true

/-- Copies what a path leads to; answers whether that succeeds. The fuel bounds the depth. -/
def copyTo (call : Call) (how : Transfer) (fuel : Nat) (source target : String) : Act Bool := do
  match fuel with
  | 0 => return false
  | fuel + 1 =>
    let say (text : String) : Act Bool := do
      remark call text
      return false
    let shown := Named.quoted source ++ " -> " ++ Named.quoted target ++ "\n"
    let fs ← Act.look
    match nodeAt fs source with
    | .error e => say ("cannot stat " ++ Named.quoted source ++ ": " ++ e.libraryPhrase)
    | .ok (.directory mode) =>
      if !how.isRecursive then
        return ← say ("-r not specified; omitting directory " ++ Named.quoted source)
      match locate fs source, locate fs target with
      | .ok (.node name id), .ok (.node other otherId) =>
        if name.isPrefixOf other && id ≠ otherId then
          return ← say ("cannot copy a directory, " ++ Named.quoted source ++ ", into itself, " ++ Named.quoted target)
        if id = otherId then
          return ← say (Named.quoted source ++ " and " ++ Named.quoted target ++ " are the same file")
        if !fs.isDirectory otherId then
          return ← say ("cannot overwrite non-directory " ++ Named.quoted target ++ " with directory " ++
            Named.quoted source)
      | .ok (.node name _), .ok (.absent other) =>
        if name.isPrefixOf other then
          return ← say ("cannot copy a directory, " ++ Named.quoted source ++ ", into itself, " ++ Named.quoted target)
        let bits ← Act.mask
        let mode := if how.keepsMode then mode else Permissions.without (mode ||| 0o700) bits
        match ← change (FileSystem.makeDirectory (decoded target) mode) with
        | some e => return ← say ("cannot create directory " ++ Named.quoted target ++ ": " ++ e.libraryPhrase)
        | none => if how.isVerbose then write call shown
      | _, .error e => return ← say ("cannot create directory " ++ Named.quoted target ++ ": " ++ e.libraryPhrase)
      | _, _ => return false
      let mut isFine := true
      for path in pathsIn fs source do
        if !(← copyTo call how fuel path (inside target (lastComponent path))) then isFine := false
      return isFine
    | .ok node =>
      if nodeNumber? fs source = nodeNumber? fs target then
        return ← say (Named.quoted source ++ " and " ++ Named.quoted target ++ " are the same file")
      if isDirectory fs target then
        return ← say ("cannot overwrite directory " ++ Named.quoted target ++ " with non-directory")
      if !(← mayReplace call how target) then return how.isCautious
      let isCopied ← copyData call how source target node
      if isCopied && how.isVerbose then write call shown
      return isCopied

/-- Moves what a path leads to; answers whether that succeeds. -/
def moveTo (call : Call) (how : Transfer) (source target : String) : Act Bool := do
  let say (text : String) : Act Bool := do
    remark call text
    return false
  let fs ← Act.look
  match locate fs source with
  | .error e => say ("cannot stat " ++ Named.quoted source ++ ": " ++ e.libraryPhrase)
  | .ok (.absent _) => say ("cannot stat " ++ Named.quoted source ++ ": " ++ Errno.noent.libraryPhrase)
  | .ok (.node name id) =>
    match locate fs target with
    | .ok (.node _ otherId) =>
      if id = otherId then
        return ← say (Named.quoted source ++ " and " ++ Named.quoted target ++ " are the same file")
      if fs.isDirectory otherId && !fs.isDirectory id then
        return ← say ("cannot overwrite directory " ++ Named.quoted target ++ " with non-directory")
      if !fs.isDirectory otherId && fs.isDirectory id then
        return ← say ("cannot overwrite non-directory " ++ Named.quoted target ++ " with directory " ++
          Named.quoted source)
    | .ok (.absent other) =>
      if fs.isDirectory id && name.isPrefixOf other then
        return ← say ("cannot move " ++ Named.quoted source ++ " to a subdirectory of itself, " ++ Named.quoted target)
    | .error _ => pure ()
    if !(← mayReplace call how target) then return false
    match ← change (FileSystem.rename (decoded source) (decoded target)) with
    | some .inval =>
      say ("cannot move " ++ Named.quoted source ++ " to a subdirectory of itself, " ++ Named.quoted target)
    | some .notempty => say ("cannot overwrite " ++ Named.quoted target ++ ": " ++ Errno.notempty.libraryPhrase)
    | some e => say ("cannot move " ++ Named.quoted source ++ " to " ++ Named.quoted target ++ ": " ++ e.libraryPhrase)
    | none =>
      if how.isVerbose then
        write call ("renamed " ++ Named.quoted source ++ " -> " ++ Named.quoted target ++ "\n")
      return true

/-- Brings operands to the last of them, or into it if it is a directory. -/
def transfer (call : Call) (options : Options) (isExact : Bool) (operands : List String)
    (bring : String → String → Act Bool) : Act Unit := do
  let fs ← Act.look
  let phrase (path : String) : String :=
    match nodeAt fs path with
    | .error e => e.libraryPhrase
    | .ok _ => Errno.notdir.libraryPhrase
  let (sources, directory, target) ← match options.value? "t", operands with
    | _, [] => missingOperand call "file operand" []
    | some directory, sources =>
      if isDirectory fs directory then pure (sources, true, directory)
      else fail call 1 ("target directory " ++ Named.quoted directory ++ ": " ++ phrase directory)
    | none, [only] => missingOperand call "destination file operand" [only]
    | none, operands =>
      let target := operands.getLastD ""
      let sources := operands.dropLast
      if isExact then
        match sources with
        | [_] => pure (sources, false, target)
        | _ => extraOperand call (operands.getD 2 "")
      else if isDirectory fs target then pure (sources, true, target)
      else if 1 < sources.length then fail call 1 ("target " ++ Named.quoted target ++ ": " ++ phrase target)
      else pure (sources, false, target)
  let mut status := 0
  for source in sources do
    let place := if directory then inside target (lastComponent source) else target
    let place := if directory && (lastComponent source = "." || lastComponent source = "..") then target else place
    if !(← bring source place) then status := 1
  Act.exit status

/-- Copies files, and directories if asked to. -/
def cp : Program := fun call => do
  let (options, operands) ← takeOptions call
    [flag "a archive", flag "b", maybeValued "backup", flag "d", flag "f force", flag "i interactive", flag "H",
      flag "l link", flag "L dereference", flag "n no-clobber", flag "P no-dereference", flag "p",
      maybeValued "preserve", valued "no-preserve", flag "r R recursive", flag "s symbolic-link", valued "S suffix",
      valued "t target-directory", flag "T no-target-directory", flag "u", maybeValued "update", flag "v verbose",
      flag "x one-file-system", maybeValued "reflink", valued "sparse", flag "parents", flag "strip-trailing-slashes",
      flag "remove-destination", flag "attributes-only", flag "copy-contents", flag "debug"]
  let how : Transfer :=
    { isRecursive := options.has "r" || options.has "a"
      keepsMode := options.has "p" || options.has "a" || options.has "preserve"
      isVerbose := options.has "v"
      isCautious := options.last? ["n", "i", "f"] = some "n" || options.has "u"
      asks := options.last? ["n", "i"] = some "i" }
  if options.has "n" then
    remark call "warning: behavior of -n is non-portable and may change in future; use --update=none instead"
  let depth := (← Act.look).names.length + 1
  transfer call options (options.has "T") operands (copyTo call how depth)

/-- Gives files other names, or other directories. -/
def mv : Program := fun call => do
  let (options, operands) ← takeOptions call
    [flag "b", maybeValued "backup", flag "f force", flag "i interactive", flag "n no-clobber", valued "S suffix",
      valued "t target-directory", flag "T no-target-directory", flag "u", maybeValued "update", flag "v verbose",
      flag "strip-trailing-slashes", flag "debug", flag "no-copy"]
  let how : Transfer :=
    { isVerbose := options.has "v"
      isCautious := options.last? ["n", "i", "f"] = some "n"
      asks := options.last? ["n", "i", "f"] = some "i" }
  transfer call options (options.has "T") operands (moveTo call how)

/-! ## Permissions -/

/-- Permission bits in octal digits and as letters. -/
def shownMode (mode : Nat) : String :=
  let letters (n : Nat) : String := Permissions.letters (mode / Nat.pow 8 n % 8) "-"
  Permissions.octalText 4 mode ++ " (" ++ letters 2 ++ letters 1 ++ letters 0 ++ ")"

/-- Arguments of `chmod`, where a mode that looks like an option is none. -/
def withModeLast (arguments : List String) : List String :=
  let isMode (argument : String) : Bool :=
    match argument.toList with
    | '-' :: c :: _ => "rwxXstugoa,+=01234567".toList.contains c
    | _ => false
  let options := arguments.takeWhile fun argument => !isMode argument
  if options.length = arguments.length || options.any (!·.startsWith "-") then arguments
  else options ++ "--" :: arguments.drop options.length

/-- Sets the permissions of what a path leads to; answers whether that succeeds. The fuel bounds the depth. -/
def setMode (call : Call) (options : Options) (newMode : Bool → Nat → Nat) (fuel : Nat) (path : String) : Act Bool := do
  match fuel with
  | 0 => return false
  | fuel + 1 =>
    let fs ← Act.look
    match nodeAt fs path with
    | .error e =>
      if !options.has "f" then remark call ("cannot access " ++ Named.quoted path ++ ": " ++ e.libraryPhrase)
      return false
    | .ok node =>
      let former := FileSystem.modeOf node
      let isDirectory := node matches .directory _
      let mode := newMode isDirectory former
      discard (change (FileSystem.setMode (decoded path) mode))
      if mode ≠ former && (options.has "v" || options.has "c") then
        write call ("mode of " ++ Named.quoted path ++ " changed from " ++ shownMode former ++ " to " ++
          shownMode mode ++ "\n")
      if mode = former && options.has "v" then
        write call ("mode of " ++ Named.quoted path ++ " retained as " ++ shownMode mode ++ "\n")
      let mut isFine := true
      if options.has "R" && isDirectory then
        for inner in pathsIn fs path do
          if !(← setMode call options newMode fuel inner) then isFine := false
      return isFine

/-- Sets the permission bits of files. -/
def chmod : Program := fun call => do
  let (options, operands) ← takeOptions { call with arguments := withModeLast call.arguments }
    [flag "c changes", flag "f silent quiet", flag "R recursive", flag "v verbose", valued "reference",
      flag "preserve-root", flag "no-preserve-root"]
  let bits ← Act.mask
  let fs ← Act.look
  let (newMode, paths) ← match options.value? "reference", operands with
    | some path, paths =>
      match nodeAt fs path with
      | .ok node => pure ((fun _ _ => FileSystem.modeOf node : Bool → Nat → Nat), paths)
      | .error e => fail call 1 ("failed to get attributes of " ++ Named.quoted path ++ ": " ++ e.libraryPhrase)
    | none, [] => missingOperand call "operand" []
    | none, text :: paths =>
      if paths.isEmpty then missingOperand call "operand" [text]
      let isWrong := (Permissions.changed? false bits 0 text).isNone ||
        (Permissions.octal? text.toList).any (0o7777 < ·)
      if isWrong then misuse call 1 ("invalid mode: " ++ Named.quoted text)
      pure ((fun isDirectory mode => (Permissions.changed? isDirectory bits mode text).getD mode), paths)
  if paths.isEmpty then missingOperand call "operand" operands
  let mut status := 0
  for path in paths do
    if !(← setMode call options newMode (fs.names.length + 1) path) then status := 1
  Act.exit status

end BatchJob.Machine.Programs
