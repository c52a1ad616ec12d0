import BatchJob.Machine.Permissions
import BatchJob.Machine.Shell.Builtin.Basic

/-!
# Commands on what surrounds a shell

The commands that change and show the working directory, the mask for new files and the limits of the process.
-/

namespace BatchJob.Machine.Shell.Builtin

/-! ## The working directory -/

/-- Goes to another directory. -/
def enter (path : String) : Deed (Option Errno) := fun _ s k =>
  .enter path fun error => k (error, s)

/-- Notes the working directory in the variables for it. -/
def noteDirectory : Deed Unit := do
  let path := Text.toOctets (← Act.look).workingPath
  modify fun s =>
    let exported (name value : String) (s : Shell) : Shell :=
      (s.assign name value).changeVariable name fun entry => { entry with isExported := true }
    let s := match s.value? "PWD" with
      | some former => exported "OLDPWD" former s
      | none => s
    exported "PWD" path s

/-- The path to go to, and whether it is shown: below one of the directories that are searched, if the path does not
start from the root or the working directory. -/
def directoryFor (fs : FileSystem) (searched : Option String) (path : String) : String × Bool :=
  let first := path.toList.takeWhile (· != '/')
  if path.startsWith "/" || first = ['.'] || first = ['.', '.'] then (path, false)
  else
    let candidates := (directories (searched.getD "")).map fun directory =>
      (if directory.isEmpty then path else ProgramPath.join directory path, !directory.isEmpty)
    (candidates.find? fun (path, _) => isDirectory fs path).getD (path, false)

/-- Goes to the directory that is named, to the former one, or home. -/
def changeDirectory : Builtin := fun arguments => do
  let s ← get
  let (_, names) ← takeOptions "cd" (flags (if s.isExtended then "LPe@" else "LP")) arguments
  if s.isExtended && 1 < names.length then Deed.stop "cd: too many arguments" 1
  let isFormer := names.head? = some "-"
  let variableName := if isFormer then "OLDPWD" else "HOME"
  let given := if isFormer then none else names.head?
  let target := given.orElse fun _ => s.value? variableName
  if s.isExtended && target.isNone then Deed.stop ("cd: " ++ variableName ++ " not set") 1
  let target := target.getD ""
  let (path, isFound) := directoryFor (← Act.look) (s.value? "CDPATH") (if target.isEmpty then "." else target)
  match ← enter path with
  | none =>
    noteDirectory
    Deed.done 0
    if isFormer || isFound then Deed.write "cd" (((← get).value? "PWD").getD "" ++ "\n")
  | some e => fault "cd" ("can't cd to " ++ target) (target ++ ": " ++ e.libraryPhrase)

/-- Shows the working directory. -/
def showDirectory : Builtin := fun arguments => do
  discard (takeOptions "pwd" (flags "LP") arguments)
  Deed.write "pwd" (Text.toOctets (← Act.look).workingPath ++ "\n")

/-! ## The mask for new files -/

/-- Says which permissions new files do not get; answers which ones they did not get before. -/
def setMask (bits : Nat) : Deed Nat := fun _ s k =>
  .mask bits fun before => k (before, s)

/-- Sets the mask for new files, or shows it. -/
def mask : Builtin := fun arguments => do
  let isExtended := (← get).isExtended
  let (options, modes) ← takeOptions "umask" (flags (if isExtended then "pS" else "S")) arguments
  let bits ← setMask 0
  discard (setMask bits)
  let shown (bits : Nat) : String :=
    if has 'S' options then Permissions.clauses (Permissions.without 0o777 bits) else Permissions.octalText 4 bits
  let command := if has 'p' options then (if has 'S' options then "umask -S " else "umask ") else ""
  match modes with
  | [] => Deed.write "umask" (command ++ shown bits ++ "\n")
  | mode :: _ =>
    let isNumber := mode.toList.head?.any Char.isDigit
    let new? : Option Nat :=
      if isNumber then (Permissions.octal? mode.toList).filter fun n => !isExtended || n < 0o10000
      else (Permissions.changed? true 0 (Permissions.without 0o777 bits) mode).map (Permissions.without 0o777)
    match new? with
    | some new =>
      discard (setMask (new % 0o1000))
      Deed.done 0
      if isExtended && has 'S' options then Deed.write "umask" (shown (new % 0o1000) ++ "\n")
    | none =>
      let wrong := String.ofList (mode.toList.take 1)
      if isNumber then fault "umask" ("Illegal number: " ++ mode) (mode ++ ": octal number out of range")
      else fault "umask" ("Illegal mode: " ++ mode) ("\x60" ++ wrong ++ "': invalid symbolic mode operator")

/-! ## The process -/

/-- The limits of a process: their letters, their names in the standard dialect, and their values. -/
def limits : List (Char × String × String) :=
  [('t', "time(seconds)", "unlimited"), ('f', "file(blocks)", "unlimited"), ('d', "data(kbytes)", "unlimited"),
    ('s', "stack(kbytes)", "8192"), ('c', "coredump(blocks)", "0"), ('m', "memory(kbytes)", "unlimited"),
    ('l', "locked memory(kbytes)", "8192"), ('p', "process", "unlimited"), ('n', "nofiles", "1048576"),
    ('v', "vmemory(kbytes)", "unlimited"), ('w', "locks", "unlimited"), ('r', "rtprio", "0")]

/-- A limit of the process. -/
def limitOf (s : Shell) (letter : Char) (isHard : Bool) : String :=
  match s.limits.lookup (letter, isHard) with
  | some value => value
  | none => ((limits.lookup letter).map Prod.snd).getD "unlimited"

/-- Whether a limit is above another one. -/
def isAbove (a b : String) : Bool :=
  match a.toNat?, b.toNat? with
  | _, none => false
  | none, some _ => true
  | some a, some b => b < a

/-- Changes the hard or the soft limit, or both. -/
def setLimit (letter : Char) (isHard isSoft : Bool) (value : String) : Deed Unit := do
  let s ← get
  let value := match s.isExtended, value with
    | true, "hard" => limitOf s letter true
    | true, "soft" => limitOf s letter false
    | _, value => value
  if value ≠ "unlimited" && value.toNat?.isNone then fault "ulimit" "bad number" (value ++ ": invalid number")
  let change (isHard : Bool) (s : Shell) : Shell :=
    { s with limits := ((letter, isHard), value) :: s.limits.filter (·.1 ≠ (letter, isHard)) }
  let changed := if isSoft then change false s else s
  let changed := if isHard then change true changed else changed
  if isAbove (limitOf changed letter false) (limitOf changed letter true) then
    fault "ulimit" "error setting limit (Invalid argument)" "cannot modify limit: Invalid argument"
  set changed

/-- Shows the limits of the process, or changes one. -/
def showLimits : Builtin := fun arguments => do
  let isExtended := (← get).isExtended
  let known := if isExtended then "SHabcdefiklmnpqrstuvxPRT" else "SHatfdscmlpnvwr"
  let (options, values) ← takeOptions "ulimit" (flags known) arguments
  Deed.done 0
  let s ← get
  let isHard := has 'H' options
  let letter := ((options.map Prod.fst).filter fun c => c != 'S' && c != 'H').getLastD 'f'
  match values with
  | [] =>
    if has 'a' options then
      Deed.write "ulimit" (String.join (limits.map fun (letter, name, _) =>
        name ++ String.ofList (List.replicate (20 - name.length) ' ') ++ " " ++ limitOf s letter isHard ++ "\n"))
    else Deed.write "ulimit" (limitOf s letter isHard ++ "\n")
  | [value] => setLimit letter (isHard || !has 'S' options) (!isHard || has 'S' options) value
  | _ :: _ :: _ => fault "ulimit" "too many arguments" "too many arguments"

/-- Shows how much time the processes have taken. -/
def showTimes : Builtin := fun _ => do
  let line := if (← get).isExtended then "0m0.000s 0m0.000s\n" else "0m0.000000s 0m0.000000s\n"
  Deed.write "times" (line ++ line)

end BatchJob.Machine.Shell.Builtin
