import BatchJob.Machine.Shell.Builtin.Signals
import BatchJob.Machine.Shell.Condition
import BatchJob.Machine.Shell.Format

/-!
# Commands that write, decide and lead elsewhere

The commands that write texts and test conditions, those that leave loops, functions and the shell, and those that
run texts as scripts or say what a name stands for.
-/

namespace BatchJob.Machine.Shell.Builtin

/-! ## Writing and testing -/

/-- Writes its arguments, between blanks. -/
def echo : Builtin := fun arguments => do
  let s ← get
  Deed.write "echo" (Written.ofEcho s.voice arguments)

/-- Writes what formatted arguments come to. -/
def writeFormatted (format : String) (arguments : List String) : Deed Unit := do
  let (written, _) := Written.printf (← get).voice format arguments
  let isFine := written.complaints.isEmpty && written.fault.isNone
  written.complaints.forM fun text => Deed.complain ("printf: " ++ text)
  Deed.write "printf" (String.ofList written.text)
  match written.fault with
  | some text => fault "printf" text text
  | none => if !isFine then Deed.done 1

/-- Writes formatted arguments, or gives what it would write to a variable. -/
def printf : Builtin := fun arguments => do
  let s ← get
  let (options, arguments) ← takeOptions "printf" (if s.isExtended then [('v', true)] else []) arguments
  match arguments, options.lookup 'v' with
  | [], _ =>
    match s.dialect with
    | .standard => Deed.stop "printf: usage: printf format [arg ...]"
    | .extended =>
      sayUsage "printf"
      Deed.done 2
  | format :: arguments, some name =>
    Deed.done 0
    assign "printf" name (String.ofList (Written.printf s.voice format arguments).1.text)
  | format :: arguments, none => writeFormatted format arguments

/-- Tests a condition. -/
def test (name : String) (evaluate : Dialect → FileSystem → List String → Except ConditionFault Bool) : Builtin :=
  fun arguments => do
    let s ← get
    match evaluate s.dialect (← Act.look) arguments with
    | .ok holds => Deed.done (if holds then 0 else 1)
    | .error fault => Deed.stop (name ++ ": " ++ fault.message s.dialect)

/-! ## Leaving -/

/-- The status that an argument names, that of the last command if there is none. -/
def statusIn (command : String) (arguments : List String) : Deed Nat := do
  let s ← get
  match arguments.head?, s.dialect with
  | none, _ => return s.status
  | some text, .standard =>
    match text.toNat?.filter (· < Nat.pow 2 31) with
    | some n => return n
    | none => Deed.stop (command ++ ": Illegal number: " ++ text)
  | some text, .extended =>
    match Arithmetic.integer? text with
    | some n => return (n % 256).toNat
    | none =>
      Deed.complain (command ++ ": " ++ text ++ ": numeric argument required")
      return 2

/-- Exits, with the status given or that of the last command. -/
def exit : Builtin := fun arguments => do
  let arguments := if (← get).isExtended && arguments.head? = some "--" then arguments.drop 1 else arguments
  if (← get).isExtended && 1 < arguments.length then Deed.stop "exit: too many arguments" 1
  let status ← statusIn "exit" arguments
  Deed.done status
  Deed.leave

/-- Leaves a function or a script that another one runs. -/
def returnFrom : Builtin := fun arguments => do
  let status ← statusIn "return" arguments
  let s ← get
  if s.isExtended && s.frames.isEmpty && s.sources = 0 then
    Deed.stop "return: can only \x60return' from a function or sourced script"
  else set { s.ended status with leap := some .fromFunction }

/-- Leaves loops. -/
def leapTo (command : String) (leap : Nat → Leap) : Builtin := fun arguments => do
  let s ← get
  if s.isExtended && s.loops = 0 then
    Deed.stop (command ++ ": only meaningful in a \x60for', \x60while', or \x60until' loop") 0
  Deed.done 0
  let loops ← match arguments.head? with
    | none => pure 1
    | some text =>
      match Arithmetic.integer? text, s.dialect with
      | some (.ofNat (n + 1)), _ => pure (n + 1)
      | _, .standard => Deed.stop (command ++ ": Illegal number: " ++ text)
      | some _, .extended =>
        remark command (text ++ ": loop count out of range") 1
        pure s.loops
      | none, .extended => Deed.refuse (command ++ ": " ++ text ++ ": numeric argument required") 1
  modify fun s => { s with leap := if s.loops = 0 then none else some (leap (min loops s.loops)) }

/-! ## Running texts -/

/-- Runs its arguments as a script. -/
def evaluate : Builtin := fun arguments => do
  let s ← get
  let arguments := if s.isExtended && arguments.head? = some "--" then arguments.drop 1 else arguments
  let text := " ".intercalate arguments
  match s.dialect with
  | .standard => Deed.enclosed "eval: " (Deed.runWhole { text })
  | .extended => Deed.runWhole { text, label := "eval: ", firstLine := s.line }

/-- The path of a script that is to be run: a name is searched for where programs are. -/
def scriptPath? (fs : FileSystem) (s : Shell) (name : String) : Option String :=
  let isFile (path : String) : Bool :=
    match fs.lookup (Text.ofOctets path) with
    | .ok (.directory _) | .error _ => false
    | .ok _ => true
  if name.toList.contains '/' then some name
  else
    let candidates := (directories ((s.value? "PATH").getD "")).map fun directory =>
      if directory.isEmpty then name else ProgramPath.join directory name
    match candidates.find? isFile with
    | some path => some path
    | none => if s.isExtended then some name else none

/-- Runs a script inside of the present one, with positions of its own if some are given. -/
def runScript (path text : String) (arguments : List String) : Deed Unit := do
  let s ← get
  let enclosing := if s.isExtended then path else path ++ ": "
  let positions := s.arguments
  modify fun s => { s with
    sources := s.sources + 1
    isTested := s.isTested && s.isExtended
    arguments := if s.isExtended && !arguments.isEmpty then arguments else positions }
  Deed.enclosed enclosing (Deed.runWhole { text, isFile := true })
  modify fun t => { t with
    sources := s.sources
    isTested := s.isTested
    arguments := if s.isExtended && !arguments.isEmpty then positions else t.arguments
    leap := if t.leap = some .fromFunction then none else t.leap }

/-- Runs the script in a file. -/
def source (command : String) : Builtin := fun arguments => do
  let s ← get
  let arguments := if arguments.head? = some "--" then arguments.drop 1 else arguments
  match arguments with
  | [] =>
    match s.dialect with
    | .standard => Deed.done 0
    | .extended =>
      Deed.complain (command ++ ": filename argument required")
      sayUsage "."
      Deed.done 2
  | name :: arguments =>
    match scriptPath? (← Act.look) s name with
    | none => Deed.stop (command ++ ": " ++ name ++ ": not found")
    | some path =>
      let descriptor := firstAside + s.aside
      match ← Act.openAt descriptor path .read with
      | some e =>
        match s.dialect with
        | .standard =>
          let why := if e = .noent || e = .notdir then "No such file" else e.libraryPhrase
          Deed.stop (command ++ ": cannot open " ++ path ++ ": " ++ why)
        | .extended => Deed.stop (path ++ ": " ++ e.libraryPhrase) 1
      | none =>
        let content ← Act.readAll descriptor
        Act.close descriptor
        match content with
        | .ok text => runScript name text arguments
        | .error e =>
          if s.isExtended then
            Deed.stop (command ++ ": " ++ path ++ ": " ++ (if e = .isdir then "is a directory" else e.libraryPhrase)) 1
          else Deed.done 0

/-! ## What names stand for -/

/-- The commands of the shell itself. -/
def names : Dialect → List String
  | .standard =>
    Script.reservedNames ++
      ["[", "alias", "bg", "cd", "chdir", "command", "echo", "false", "fg", "getopts", "hash", "jobs", "kill", "local",
        "printf", "pwd", "read", "test", "true", "type", "ulimit", "umask", "unalias", "wait"]
  | .extended =>
    Script.reservedNames ++
      ["[", "alias", "bg", "bind", "builtin", "caller", "cd", "command", "compgen", "complete", "compopt", "declare",
        "dirs", "disown", "echo", "enable", "false", "fc", "fg", "getopts", "hash", "help", "history", "jobs", "kill",
        "let", "local", "logout", "mapfile", "popd", "printf", "pushd", "pwd", "read", "readarray", "shopt", "source",
        "suspend", "test", "true", "type", "typeset", "ulimit", "umask", "unalias", "wait"]

/-- The commands of the standard dialect that keep the variables set before them and whose failure ends the
script. -/
def specialNames : List String :=
  Script.reservedNames ++ ["local"]

/-- What a name may stand for as a command. -/
inductive Meaning
  | aliased (text : String)
  | keyword
  | function
  | builtin
  /-- A program that was found before. -/
  | known (path : String)
  | program (path : String)
  deriving DecidableEq, Repr

/-- What a name stands for as a command, in the order in which it is looked at; programs are searched for on a path. -/
def meanings (s : Shell) (fs : FileSystem) (searchPath : String) (name : String) : List Meaning :=
  let isThere (path : String) : Bool :=
    match fs.lookup (Text.ofOctets path) with
    | .ok (.directory _) => !s.isExtended
    | .ok _ => !s.isExtended || fs.isExecutable (Text.ofOctets path)
    | .error _ => false
  let searched : Option String :=
    match search s.dialect fs searchPath name with
    | .found path =>
      let isFit := if name.toList.contains '/' then isThere path else fs.isExecutable (Text.ofOctets path)
      if isFit then some path else none
    | .unfit | .nothing => none
  ((Deed.knownAliases s).lookup name |>.map Meaning.aliased).toList ++
    (if (Script.keywords s.dialect).contains name then [.keyword] else []) ++
    (if (s.functions.lookup name).isSome then [.function] else []) ++
    (if (names s.dialect).contains name then [.builtin] else []) ++
    ((s.found.lookup name).map fun (path, _) => Meaning.known path).toList ++
    (searched.map Meaning.program).toList

/-- The meanings of a name with the programs that would be found if there were no others before them. -/
def withFurther (fs : FileSystem) (searchPath name : String) (found : List Meaning) : List Meaning :=
  let paths := if name.toList.contains '/' then [] else
    (directories searchPath).map fun directory => if directory.isEmpty then name else ProgramPath.join directory name
  let further := (paths.filter fun path => fs.isExecutable (Text.ofOctets path)).map Meaning.program
  found ++ further.filter fun meaning => !found.contains meaning

/-- What is said of a meaning of a name. -/
def describe (s : Shell) (name : String) : Meaning → String
  | .aliased text =>
    if s.isExtended then name ++ " is aliased to \x60" ++ text ++ "'" else name ++ " is an alias for " ++ text
  | .keyword => name ++ " is a shell keyword"
  | .function => if s.isExtended then name ++ " is a function" else name ++ " is a shell function"
  | .builtin =>
    if !s.isExtended && specialNames.contains name then name ++ " is a special shell builtin"
    else name ++ " is a shell builtin"
  | .known path =>
    if s.isExtended then name ++ " is hashed (" ++ path ++ ")" else name ++ " is a tracked alias for " ++ path
  | .program path => name ++ " is " ++ path

/-- What leads to a meaning of a name, in one word or as a definition. -/
def leadsTo (s : Shell) (name : String) : Meaning → String
  | .aliased text =>
    "alias " ++ name ++ "=" ++ (if s.isExtended then Quoted.reusable text else Quoted.withDoubleQuotes text)
  | .keyword | .function | .builtin => name
  | .known path | .program path => path

/-- The kind of a meaning. -/
def kindOf : Meaning → String
  | .aliased _ => "alias"
  | .keyword => "keyword"
  | .function => "function"
  | .builtin => "builtin"
  | .known _ | .program _ => "file"

/-- Notes where a program has been found. -/
def noteFound (name path : String) (isRun : Bool) (s : Shell) : Shell :=
  let runs := ((s.found.lookup name).map Prod.snd).getD 0 + if isRun then 1 else 0
  if name.toList.contains '/' then s
  else if (s.found.lookup name).isSome then
    { s with found := s.found.map fun old => if old.1 = name then (name, path, runs) else old }
  else { s with found := s.found ++ [(name, path, runs)] }

/-- Notes where a program has been found whose name is explained, in the standard dialect. -/
def noteMeaning (name : String) (meaning : Meaning) (s : Shell) : Shell :=
  match s.dialect, meaning with
  | .standard, .program path => noteFound name path false s
  | _, _ => s

/-- Says what names stand for. -/
def describeAll : Builtin := fun arguments => do
  let s ← get
  let (options, arguments) ←
    if s.isExtended then takeOptions "type" (flags "afptP") arguments else pure ([], arguments)
  let fs ← Act.look
  Deed.done 0
  for name in arguments do
    let all := meanings s fs s.searchPath name
    let all := if has 'a' options then withFurther fs s.searchPath name all else all
    let all := if has 'f' options then all.filter (· ≠ .function) else all
    let all := if has 'P' options then all.filter (kindOf · = "file") else all
    let line (meaning : Meaning) : String :=
      if has 't' options then kindOf meaning ++ "\n"
      else if has 'p' options || has 'P' options then
        (if kindOf meaning = "file" then leadsTo s name meaning ++ "\n" else "")
      else describe s name meaning ++ "\n"
    match all with
    | [] =>
      if !s.isExtended then
        Act.say Task.standardOutput (name ++ ": not found\n")
        Deed.done 127
      else if has 't' options || has 'p' options || has 'P' options then Deed.done 1
      else remark "type" (name ++ ": not found") 1
    | first :: _ =>
      modify (noteMeaning name first)
      let shown := if has 'a' options then all.filter fun meaning => !(meaning matches .known _) else [first]
      Act.say Task.standardOutput (String.join (shown.map line))

/-- Says what the name of a command stands for, at length or in a word. -/
def locate (isVerbose isDefault : Bool) (arguments : List String) : Deed Unit := do
  let s ← get
  let fs ← Act.look
  let searchPath := if isDefault then defaultPath else s.searchPath
  Deed.done 0
  let names := if s.isExtended then arguments else arguments.take 1
  let isFound (name : String) : Bool := !(meanings s fs searchPath name).isEmpty
  for name in names do
    match meanings s fs searchPath name with
    | meaning :: _ =>
      if !isDefault then modify (noteMeaning name meaning)
      Act.say Task.standardOutput ((if isVerbose then describe s name meaning else leadsTo s name meaning) ++ "\n")
    | [] =>
      match s.dialect with
      | .standard =>
        if isVerbose then Act.say Task.standardOutput (name ++ ": not found\n")
        Deed.done 127
      | .extended =>
        if isVerbose then Deed.complain ("command: " ++ name ++ ": not found")
        if !names.any isFound then Deed.done 1

/-- The place of a name in the table of the programs that have been found. -/
def foundPlace (name : String) : Nat :=
  let codes := name.toList.map Char.toNat
  (codes.foldl (· + ·) (16 * codes.headD 0)) % 0x8000 % 31

/-- Shows where programs have been found, finds some, or forgets them all. -/
def showFound : Builtin := fun arguments => do
  let isExtended := (← get).isExtended
  let (options, arguments) ← takeOptions "hash"
    (if isExtended then ('p', true) :: flags "lrdt" else flags "rv") arguments
  Deed.done 0
  if has 'r' options then modify fun s => { s with found := [] }
  else if arguments.isEmpty then
    let s ← get
    match s.dialect with
    | .standard =>
      let shown := s.found.mergeSort fun a b => foundPlace a.1 ≤ foundPlace b.1
      Deed.write "hash" (String.join (shown.map fun (_, path, _) => path ++ "\n"))
    | .extended =>
      let count (runs : Nat) : String :=
        String.ofList (List.replicate (4 - (toString runs).length) ' ') ++ toString runs
      if s.found.isEmpty then Deed.write "hash" "hash: hash table empty\n"
      else
        Deed.write "hash" ("hits\tcommand\n" ++
          String.join (s.found.map fun (_, path, runs) => count runs ++ "\t" ++ path ++ "\n"))
  else
    for name in arguments do
      let s ← get
      let fs ← Act.look
      if (names s.dialect).contains name || (s.functions.lookup name).isSome then pure ()
      else
        match search s.dialect fs s.searchPath name with
        | .found path =>
          if fs.isExecutable (Text.ofOctets path) then modify (noteFound name path false)
          else remark "hash" (name ++ ": not found") 1
        | .unfit => remark "hash" (name ++ ": " ++ Errno.acces.libraryPhrase) 1
        | .nothing => remark "hash" (name ++ ": not found") 1

end BatchJob.Machine.Shell.Builtin
