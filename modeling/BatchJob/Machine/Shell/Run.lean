import BatchJob.Machine.Shell.Assessment
import BatchJob.Machine.Shell.Builtin
import BatchJob.Machine.Shell.Redirection

/-!
# Running a script

What a shell does for each command of a script. Programs and subshells run in processes of their own, and the last
command of all takes the place of the shell. `execute` says what a command does, given how the scripts in it are run;
`runWith` ties the knot.
-/

namespace BatchJob.Machine.Shell

/-! ## After a command -/

/-- How many signals may be noted while a command runs. -/
def maxNoted : Nat := 64

/-- What follows a command: the traps for the signals that came. -/
def afterCommand : Deed Unit :=
  Builtin.onSignals maxNoted

/-- What follows a command whose status counts: also the end of the shell if it ends on a failure. -/
def conclude : Deed Unit := do
  afterCommand
  let s ← get
  if s.status ≠ 0 && !s.isTested && s.leap.isNone then
    Builtin.runTrap "ERR"
    if s.isOn "errexit" then Deed.leave

/-- What follows a command that is no pipeline. -/
def concludeAlone : Deed Unit := do
  modify fun s => { s with parts := [s.status] }
  conclude

/-! ## Programs -/

/-- The shell that runs a file which is no program by itself. -/
def shellPath (s : Shell) : String :=
  if s.isExtended then "/bin/bash" else "/bin/sh"

/-- The environment of a program at a path. -/
def environmentFor (s : Shell) (path : String) : List (String × String) :=
  if s.isExtended then s.environment.filter (·.1 ≠ "_") ++ [("_", path)] else s.environment

/-- Becomes a program; answers why it could not. -/
def execute? (path : String) (arguments : List String) : Deed Errno := fun _ s k =>
  .execute path arguments (environmentFor s path) fun e => k (e, s)

/-- The start of what a path leads to. -/
def sample (fs : FileSystem) (path : String) (length : Nat) : List UInt8 :=
  match fs.lookup (Text.ofOctets path) with
  | .ok (.file _ content) => (content.extract 0 length).data.toList
  | _ => []

/-- Whether what a path leads to holds no text, as far as its first line shows. -/
def isBinary (dialect : Dialect) (fs : FileSystem) (path : String) : Bool :=
  let isControl (c : UInt8) : Bool := c < 9 || (16 ≤ c && c < 32 && c ≠ 27) || c = 127
  match dialect with
  | .standard => ((sample fs path 128).takeWhile (· != 10)).any isControl
  | .extended =>
    let start := sample fs path 80
    (start.takeWhile (· != 10)).contains 0 || [0x7f, 0x45, 0x4c, 0x46].isPrefixOf start

/-- The interpreter that the first line of a script names. -/
def interpreter? (fs : FileSystem) (path : String) : Option String :=
  match sample fs path 128 with
  | 0x23 :: 0x21 :: rest =>
    let isBlank (c : UInt8) : Bool := c = 32 || c = 9
    let word := (rest.dropWhile isBlank).takeWhile fun c => !isBlank c && c ≠ 10
    some (Text.ofBytes word)
  | _ => none

/-- What the standard dialect says of a program that could not be executed, and the status. -/
def standardFault (name : String) (e : Errno) : String × Nat :=
  let isMissing := e = .noent || e = .notdir
  (name ++ ": " ++ (if isMissing then "not found" else e.libraryPhrase),
    if isMissing || e = .loop || e = .nametoolong then 127 else 126)

/-- What the extended dialect says of a program that could not be executed, whether that is said without the line
where it stands, and the status. -/
def extendedFault (fs : FileSystem) (path : String) (e : Errno) : String × Bool × Nat :=
  if Builtin.isDirectory fs path then (path ++ ": " ++ Errno.isdir.libraryPhrase, false, 126)
  else if e = .noexec then (path ++ ": cannot execute binary file: " ++ e.libraryPhrase, false, 126)
  else if !fs.isExecutable (Text.ofOctets path) then
    (path ++ ": " ++ e.libraryPhrase, false, if e = .noent then 127 else 126)
  else if e = .noent then (path ++ ": cannot execute: required file not found", false, 127)
  else
    match interpreter? fs path with
    | some interpreter => (path ++ ": " ++ interpreter ++ ": bad interpreter: " ++ e.libraryPhrase, true, 126)
    | none => (path ++ ": " ++ e.libraryPhrase, false, 126)

/-- Executes the program at a path, or the script there; answers why that could not be done. -/
def executeText? (path : String) (words : List String) : Deed Errno := do
  let s ← get
  let e ← execute? path words
  if e = .noexec && !isBinary s.dialect (← Act.look) path then
    execute? s.shellPath (s.shellPath :: path :: words.drop 1)
  else return e

/-- Says what the extended dialect says of a program that could not be executed; answers the status. -/
def explain (path : String) (e : Errno) : Deed Nat := do
  let (text, isBare, status) := extendedFault (← Act.look) path e
  if isBare then Act.complain ((← get).name ++ ": " ++ text) else Deed.complain text
  return status

/-- Becomes the program at a path, which a command calls by a name. -/
def become (name path : String) (arguments : List String) : Deed Unit := do
  let e ← executeText? path (name :: arguments)
  match (← get).dialect with
  | .standard =>
    let (text, status) := standardFault name e
    Deed.complain text
    Act.exit status
  | .extended => Act.exit (← explain path e)

/-- What is said of a name that no command has. -/
def notFound (s : Shell) (name : String) : String :=
  if !s.isExtended then name ++ ": not found"
  else if name.toList.contains '/' then name ++ ": No such file or directory"
  else name ++ ": command not found"

/-- A shell with the level of shells raised by a number: a shell whose place another program takes counts no more. -/
def levelled (change : Int) (s : Shell) : Shell :=
  match s.isExtended, (s.value? "SHLVL").bind String.toInt? with
  | true, some level => s.assign "SHLVL" (toString (level + change))
  | _, _ => s

/-- Runs a program, as a process of its own unless nothing follows it. -/
def runProgram (isLast : Bool) (searchPath name : String) (arguments : List String) : Deed Unit := do
  let fs ← Act.look
  let s ← get
  match Builtin.search s.dialect fs searchPath name with
  | .nothing =>
    Deed.complain (notFound s name)
    Deed.done 127
  | .unfit =>
    Deed.complain (name ++ ": " ++ Errno.acces.libraryPhrase)
    Deed.done 127
  | .found path =>
    if !s.isExtended || fs.isExecutable (Text.ofOctets path) then modify (Builtin.noteFound name path true)
    if isLast && s.traps.isEmpty then
      modify (levelled (-1))
      become name path arguments
    else
      let pid ← Deed.fork (become name path arguments)
      Deed.awaitCommand pid

/-- A path from the root on. -/
def fullPath (fs : FileSystem) (path : String) : String :=
  if path.startsWith "/" then path
  else
    let path := if path.startsWith "./" then String.ofList (path.toList.drop 2) else path
    ProgramPath.join (Text.toOctets fs.workingPath) path

/-- Goes on after the shell could not be replaced: with the end of the shell, unless a switch rules that out. -/
def notReplaced (status : Nat) : Deed Unit := do
  Deed.done status
  if !(← get).isOn "execfail" then Deed.leave

/-- Replaces the shell by a program. -/
def replaceBy (name : String) (arguments : List String) : Deed Unit := do
  let s ← get
  let fs ← Act.look
  match Builtin.search s.dialect fs s.searchPath name, s.dialect with
  | .nothing, _ =>
    if s.isExtended && Builtin.isDirectory fs name then
      Deed.complain ("exec: " ++ name ++ ": cannot execute: " ++ Errno.isdir.libraryPhrase)
      notReplaced 126
    else
      Deed.complain ("exec: " ++ name ++ ": not found")
      notReplaced 127
  | .unfit, _ =>
    Deed.complain ("exec: " ++ name ++ ": " ++ Errno.acces.libraryPhrase)
    notReplaced 126
  | .found path, .standard =>
    let e ← executeText? path (name :: arguments)
    let (text, status) := standardFault name e
    Deed.complain ("exec: " ++ text)
    Deed.done status
    Deed.leave
  | .found path, .extended =>
    let path := fullPath fs path
    modify (levelled (-1))
    let e ← executeText? path (name :: arguments)
    modify (levelled 1)
    let status ← explain path e
    if status = 127 then notReplaced 127
    else if fs.isExecutable (Text.ofOctets path) then
      Deed.complain (path ++ ": Success")
      notReplaced status
    else
      Deed.complain ("exec: " ++ path ++ ": cannot execute: " ++
        (if Builtin.isDirectory fs path then Errno.isdir else e).libraryPhrase)
      notReplaced 126

/-! ## Words of a command -/

/-- Whether the arguments of a command that set variables are not split. -/
def isDeclaring (dialect : Dialect) (name : String) : Bool :=
  ["alias", "export", "readonly", "local"].contains name ||
    (dialect = .extended && (name = "declare" || name = "typeset"))

/-- The command that words call, without what stands before it and only says how it is called. -/
def calledName (dialect : Dialect) : List String → String
  | "command" :: "-p" :: rest | "command" :: "--" :: rest | "command" :: rest => calledName dialect rest
  | name :: rest => if dialect = .extended && name = "builtin" then calledName dialect rest else name
  | [] => ""

/-- The fields of the words of a command after those that are known, and the settings of arrays among them. -/
def commandFields (found : List String) (arrays : List Setting) : List Word → Deed (List String × List Setting)
  | [] => return (found, arrays)
  | word :: rest => do
    let s ← get
    let isDeclared := isDeclaring s.dialect (calledName s.dialect found)
    match isDeclared, Script.setting? s.dialect word with
    | true, some (.mk name none appends [.items items]) =>
      commandFields (found ++ [name]) (arrays ++ [.mk name none appends [.items items]]) rest
    | true, some (.mk name none appends value) =>
      let field := name ++ (if appends then "+=" else "=") ++ (← valueOfWord value)
      commandFields (found ++ [field]) arrays rest
    | _, _ => commandFields (found ++ (← fields word)) arrays rest

/-! ## Traces -/

/-- What stands before a trace. -/
def traceMark (s : Shell) : String :=
  let mark := (s.value? "PS4").getD "+ "
  if s.isExtended then String.ofList (List.replicate s.depth ((mark.toList.head?).getD '+')) ++ mark else mark

/-- Shows the settings and the words of a command before it runs. -/
def trace (descriptor : Nat) (settings words : List String) : Deed Unit := do
  let s ← get
  if s.isOn "xtrace" then
    let line (parts : List String) : String := s.traceMark ++ " ".intercalate parts ++ "\n"
    match s.dialect with
    | .standard => Act.say descriptor (line (settings ++ words))
    | .extended =>
      let shown (setting : String) : String :=
        let name := setting.toList.takeWhile (· != '=')
        String.ofList name ++ "=" ++ Quoted.traced (String.ofList (setting.toList.drop (name.length + 1)))
      for setting in settings do Act.say descriptor (line [shown setting])
      if !words.isEmpty then Act.say descriptor (line (words.map Quoted.traced))

/-! ## Commands -/

/-- Gives variables the values that they have in another shell. -/
def restored (names : List String) (before s : Shell) : Shell :=
  names.foldl (fun s name => s.restoreVariable name (before.lookup? name)) s

/-- Does something while variables are set and exported, which are set back afterwards. -/
def withSettings (settings : List Setting) (deed : List String → Deed Unit) : Deed Unit := do
  match settings with
  | [] => deed []
  | _ =>
    let before ← get
    let names := settings.map nameOfSetting
    let inner : Deed Unit := do
      let shown ← settings.mapM fun setting => do
        let text ← perform setting
        modify fun s => s.changeVariable (nameOfSetting setting) fun entry => { entry with isExported := true }
        return text
      deed shown
    Deed.thenAlways inner (modify (restored names before))

/-- Does something after variables are set for good. -/
def afterSettings (settings : List Setting) (isExported : Bool) (deed : List String → Deed Unit) : Deed Unit := do
  let shown ← settings.mapM fun setting => do
    let text ← perform setting
    if isExported then
      modify fun s => s.changeVariable (nameOfSetting setting) fun entry => { entry with isExported := true }
    return text
  deed shown

/-- Runs a function. -/
def call (name : String) (body : Script) (arguments : List String) : Deed Unit := do
  let s ← get
  let back : Deed Unit := modify fun t =>
    let t := t.dropFrame
    { t with
      arguments := s.arguments, loops := s.loops, calls := s.calls
      switches := t.keptSwitches.getD t.switches, keptSwitches := s.keptSwitches
      leap := if t.leap = some .fromFunction then none else t.leap }
  modify fun s => { s with
    arguments, frames := [] :: s.frames, loops := 0, calls := name :: s.calls, keptSwitches := none }
  Deed.thenAlways (Deed.inside (Deed.run body)) back

/-- What a command calls. -/
inductive Callee
  | function (body : Script)
  | builtin (command : Builtin) (isSpecial : Bool)
  | program

/-- What a name calls, by itself or after a word that rules functions out. -/
def calleeOf (s : Shell) (isBare : Bool) (name : String) : Callee :=
  match (if isBare then none else s.functions.lookup name), builtin? s.dialect name with
  | some body, _ => .function body
  | none, some command => .builtin command (!isBare && !s.isExtended && Builtin.specialNames.contains name)
  | none, none => .program

/-- How a command is called: whether functions are ruled out, whether programs are searched for in the usual
directories, and the words that are left; or what it says of names. -/
inductive Call
  | plain (isBare isDefault : Bool) (words : List String)
  | location (isVerbose isDefault : Bool) (names : List String)
  | badOption (letter : Char)

/-- Takes the word that rules functions out, with its options, from the front of a command. The fuel is the number of
words at most. -/
def callOf (dialect : Dialect) (fuel : Nat) (isBare isDefault : Bool) (words : List String) : Call :=
  match fuel, words with
  | fuel + 1, "command" :: rest =>
    let letters := match rest.head?.map String.toList with
      | some ('-' :: c :: letters) => if rest.head? = some "--" then [] else c :: letters
      | _ => []
    let rest := if letters.isEmpty then rest else rest.drop 1
    let rest := if rest.head? = some "--" then rest.drop 1 else rest
    let isDefault := isDefault || letters.contains 'p'
    match letters.find? fun c => !"pvV".toList.contains c with
    | some letter => .badOption letter
    | none =>
      if letters.contains 'V' then .location true isDefault rest
      else if letters.contains 'v' then .location false isDefault rest
      else callOf dialect fuel true isDefault rest
  | _, name :: rest =>
    if dialect = .extended && name = "builtin" then .plain true isDefault rest
    else .plain isBare isDefault (name :: rest)
  | _, [] => .plain isBare isDefault []

/-- What follows a command whose descriptors could not be redirected: the end of the script, if it is a special
one. -/
def failedRedirection (isSpecial : Bool) : Deed Unit := do
  Deed.done (redirectionFailure (← get))
  if isSpecial && !(← get).isExtended then Deed.abandon

/-- Carries out the settings of arrays among the arguments of a command. -/
def setArrays (arrays : List Setting) : Deed Unit :=
  arrays.forM fun setting => discard (perform setting)

/-- Where a trace is written while descriptors are redirected. -/
def traceDescriptor (s : Shell) (redirections : List Redirection) : Nat :=
  let changed := redirections.flatMap fun
    | .mk _ (.both _) _ => [Task.standardOutput, Task.standardError]
    | .mk descriptor _ _ => [descriptor]
  match changed.eraseDups.findIdx? (· = Task.standardError) with
  | some i => firstAside + s.aside + i
  | none => Task.standardError

/-- Replaces the shell by a program, or redirects the descriptors of the shell itself. -/
def exec (settings : List Setting) (redirections : List Redirection) (words arguments : List String) :
    Deed Unit := do
  let reroutings ← redirections.mapM reroutingOf
  let descriptor := traceDescriptor (← get) redirections
  let isTraced := (← get).isOn "xtrace" && descriptor != Task.standardError
  if isTraced then discard (Act.duplicate Task.standardError descriptor)
  if ← rerouteAll reroutings then
    afterSettings settings (!arguments.isEmpty) fun shown => do
      trace descriptor shown words
      if isTraced then Act.close descriptor
      match arguments with
      | [] => Deed.done 0
      | name :: arguments => replaceBy name arguments
  else failedRedirection true

/-- Runs a command whose words are known. -/
def runFields (settings : List Setting) (redirections : List Redirection) (words : List String)
    (arrays : List Setting) : Deed Unit := do
  let s ← get
  let isLast := s.isLast
  let descriptor := traceDescriptor s redirections
  let around (isSpecial : Bool) (deed : Deed Unit) : Deed Unit :=
    redirected redirections deed (failedRedirection isSpecial)
  let traced (shown : List String) : Deed Unit := trace descriptor shown words
  match callOf s.dialect words.length false false words with
  | .badOption letter => around false (Deed.asBuiltin false (Builtin.badOption "command" letter))
  | .location isVerbose isDefault names =>
    around false <| withSettings settings fun shown => do
      traced shown
      Builtin.locate isVerbose isDefault names
  | .plain _ _ [] =>
    around false <| afterSettings settings false fun shown => do
      traced shown
      modify fun s => s.ended s.substituted
  | .plain isBare isDefault (name :: arguments) =>
    if name = "exec" && (isBare || (s.functions.lookup name).isNone) then
      Deed.asBuiltin (!isBare) (exec settings redirections words arguments)
    else
      match calleeOf s isBare name with
      | .function body =>
        around false <| withSettings settings fun shown => do
          traced shown
          call name body arguments
      | .builtin command isSpecial =>
        let run (shown : List String) : Deed Unit := do
          traced shown
          if name = "readonly" then setArrays arrays
          Deed.asBuiltin isSpecial (command arguments)
          if name ≠ "readonly" then setArrays arrays
        around isSpecial (if isSpecial then afterSettings settings false run else withSettings settings run)
      | .program =>
        around false <| withSettings settings fun shown => do
          traced shown
          let s ← get
          runProgram isLast (if isDefault then Builtin.defaultPath else s.searchPath) name arguments

/-- Closes the channels that have been opened for the words of a command. -/
def closeChannels (before : Nat) : Deed Unit := do
  let s ← get
  for i in List.range (s.aside - before) do Act.close (lastChannel - (before + i))
  modify fun s => { s with aside := before }

/-- Runs a command that is no compound. -/
def runSimple (line : Nat) (settings : List Setting) (words : List Word) (redirections : List Redirection) :
    Deed Unit := do
  modify fun s => { s with line, substituted := 0 }
  let before := (← get).aside
  let (fields, arrays) ← commandFields [] [] words
  runFields settings redirections fields arrays
  closeChannels before
  concludeAlone

/-! ## Loops -/

/-- What a loop makes of a command that left the body: whether there is a next round. -/
def afterRound : Deed Bool := do
  match (← get).leap with
  | none | some (.nextRound 1) =>
    modify fun s => { s with leap := none }
    return true
  | some (.breakOut 1) =>
    modify fun s => { s with leap := none }
    return false
  | some (.breakOut loops) =>
    modify fun s => { s with leap := some (.breakOut (loops - 1)) }
    return false
  | some (.nextRound loops) =>
    modify fun s => { s with leap := some (.nextRound (loops - 1)) }
    return false
  | some .fromFunction => return false

/-- Runs the rounds of a loop. -/
def looping (rounds : Deed Unit) : Deed Unit := do
  let outer ← get
  modify fun s => { s with loops := s.loops + 1, isLast := false }
  rounds
  modify fun s => { s with loops := outer.loops, isLast := outer.isLast, isTested := outer.isTested }

/-- Runs a script whose status is looked at. -/
def tested (script : Script) : Deed Unit := do
  let outer ← get
  modify fun s => { s with isTested := true, isLast := false }
  Deed.run script
  modify fun s => { s with isTested := outer.isTested, isLast := outer.isLast }

/-- Repeats a body as long as a condition succeeds or fails; the status is that of the last round. The fuel is the
number of rounds at most. -/
def rounds (whileItSucceeds : Bool) (condition body : Script) (fuel last : Nat) : Deed Unit := do
  match fuel with
  | 0 => Deed.leave
  | fuel + 1 =>
    discard Act.look
    tested condition
    if (← get).leap.isSome then
      if ← afterRound then rounds whileItSucceeds condition body fuel last
    else if ((← get).status = 0) = whileItSucceeds then
      Deed.run body
      if ← afterRound then rounds whileItSucceeds condition body fuel (← get).status
    else Deed.done last

/-- Runs a body with a variable set to each of some texts. -/
def eachOf (line : Nat) (name : String) (body : Script) (texts : List String) : Deed Unit := do
  match texts with
  | [] => return
  | text :: rest =>
    modify fun s => { s with line }
    assignOrRefuse name text
    Deed.run body
    if ← afterRound then eachOf line name body rest

/-- The value of an arithmetic expression that is a command. -/
def calculated (expression : Word) : Deed Int := do
  let text := Glyph.textOf " " (← expandPieces false false expression)
  let s ← get
  match Arithmetic.valueOf s text.toList with
  | .ok (value, s) =>
    set s
    return value
  | .error fault => Deed.refuse ("((: " ++ Arithmetic.complaint s.dialect text.toList fault) 1

/-- Repeats a body as long as an expression is not zero, and evaluates another one after each round. The fuel is the
number of rounds at most. -/
def countedRounds (condition step : Word) (body : Script) (fuel : Nat) : Deed Unit := do
  match fuel with
  | 0 => Deed.leave
  | fuel + 1 =>
    discard Act.look
    let value ← if condition.isEmpty then pure 1 else calculated condition
    if value ≠ 0 then
      Deed.run body
      if ← afterRound then
        if !step.isEmpty then discard (calculated step)
        countedRounds condition step body fuel

/-! ## Compounds -/

/-- Whether one of some patterns stands for a text. -/
def matchesAny (text : String) : List Word → Deed Bool
  | [] => return false
  | pattern :: rest => do
    if (← patternOfWord pattern).accepts text.toList then return true else matchesAny text rest

/-- Runs the branches that a text leads to; `isEntered` says that the next one is run in any case. -/
def runBranches (text : String) (isEntered : Bool) : List Branch → Deed Unit
  | [] => if isEntered then return else Deed.done 0
  | .mk patterns body goesOn looksOn :: rest => do
    let isMeant ← if isEntered then pure true else matchesAny text patterns
    if isMeant then
      if body matches .nothing then Deed.done 0
      else if goesOn || looksOn then Deed.inside (Deed.run body)
      else Deed.run body
      if goesOn && (← get).leap.isNone then runBranches text true rest
      else if looksOn && (← get).leap.isNone then runFurther text rest
    else runBranches text false rest
where
  /-- Runs the next branches that a text leads to, if there are any. -/
  runFurther (text : String) : List Branch → Deed Unit
    | [] => return
    | .mk patterns body _ looksOn :: rest => do
      if ← matchesAny text patterns then
        Deed.inside (Deed.run body)
        if looksOn && (← get).leap.isNone then runFurther text rest
      else runFurther text rest

/-- Starts the parts of a pipeline, each of which reads what the one before it writes; answers their process
numbers. -/
def startParts (input : Option Nat) : List Script → Deed (List Pid)
  | [] => return []
  | part :: rest => do
    let free := firstAside + (← get).aside
    let readsFrom (source : Nat) : Deed Unit := do
      discard (Act.duplicate source Task.standardInput)
      Act.close source
    let read : Deed Unit := input.forM readsFrom
    match rest with
    | [] =>
      let pid ← Deed.fork do
        read
        Deed.run part
      input.forM (fun source => do Act.close source)
      return [pid]
    | _ =>
      let reader := if input = some free then free + 2 else free
      let writer := free + 1
      connect reader writer
      let pid ← Deed.fork do
        Act.close reader
        read
        discard (Act.duplicate writer Task.standardOutput)
        Act.close writer
        Deed.run part
      input.forM (fun source => do Act.close source)
      Act.close writer
      return pid :: (← startParts (some reader) rest)

/-- Waits for the parts of a pipeline; answers their statuses. -/
def awaitParts : List Pid → Deed (List Nat)
  | [] => return []
  | pid :: rest => do
    let status ← Deed.await pid
    Deed.announce pid status
    return statusOf status :: (← awaitParts rest)

/-- Runs a pipeline. -/
def runPipeline (parts : List Script) : Deed Unit := do
  let statuses ← awaitParts (← startParts none parts)
  let s ← get
  let last := statuses.getLastD 0
  let status := if s.isOn "pipefail" then (statuses.reverse.find? (· ≠ 0)).getD 0 else last
  modify fun s => { s with status, parts := statuses }
  conclude

/-- Runs a script in a shell of its own. -/
def runSubshell (body : Script) : Deed Unit := do
  let s ← get
  if s.isLast && s.traps.isEmpty then
    modify Deed.forked
    Deed.run body
    Deed.leave
  else
    Deed.awaitCommand (← Deed.fork (Deed.run body))
    concludeAlone

/-- Starts a script in the background. -/
def startBackground (body : Script) : Deed Unit := do
  let pid ← Deed.fork do
    Builtin.regard .int (some .ignored)
    Builtin.regard .quit (some .ignored)
    discard (Act.openAt Task.standardInput "/dev/null" .read)
    modify fun s => { s with isTested := false }
    Deed.run body
  modify fun s => (s.addJob pid).ended 0

/-- What a shell does for a script, given how the scripts in it are run. The fuel is the number of rounds of a loop
at most. -/
def executeScript (fuel : Nat) (script : Script) : Deed Unit := do
  let s ← get
  match (if s.isOn "noexec" then .nothing else script) with
  | .nothing => return
  | .simple line settings words redirections => runSimple line settings words redirections
  | .subshell body => runSubshell body
  | .redirected line body redirections =>
    modify fun s => { s with line }
    redirected redirections (Deed.run body) (do failedRedirection false; concludeAlone)
  | .sequence first second =>
    Deed.inside (Deed.run first)
    if (← get).leap.isNone then Deed.run second
  | .both first second =>
    tested first
    if (← get).leap.isNone && (← get).status = 0 then Deed.run second
  | .either first second =>
    tested first
    if (← get).leap.isNone && (← get).status ≠ 0 then Deed.run second
  | .negated body =>
    tested body
    if (← get).leap.isNone then Deed.done (if (← get).status = 0 then 1 else 0)
  | .background body => startBackground body
  | .pipeline parts => runPipeline parts
  | .choice condition yes no =>
    tested condition
    if (← get).leap.isNone then
      if (← get).status = 0 then Deed.run yes
      else if no matches .nothing then Deed.done 0
      else Deed.run no
  | .loop whileItSucceeds condition body => looping (rounds whileItSucceeds condition body fuel 0)
  | .each line name words body =>
    modify fun s => { s with line }
    let texts ← match words with
      | none => pure s.arguments
      | some words => allFields words
    if texts.isEmpty then Deed.done 0
    looping (eachOf line name body texts)
  | .matching line subject branches =>
    modify fun s => { s with line }
    let text ← textOfWord subject
    runBranches text false branches
  | .function name body =>
    modify fun s => { s.ended 0 with functions := (name, body) :: s.functions.filter (·.1 ≠ name) }
  | .condition line test =>
    modify fun s => { s.ended 0 with line }
    let holds ← assess test
    if (← get).status ≠ 2 then Deed.done (if holds then 0 else 1)
    concludeAlone
  | .arithmetic line expression =>
    modify fun s => { s with line }
    let value ← calculated expression
    Deed.done (if value = 0 then 1 else 0)
    concludeAlone
  | .counted line first second third body =>
    modify fun s => { s with line }
    if !first.isEmpty then discard (calculated first)
    Deed.done 0
    looping (countedRounds second third body fuel)

/-- Runs a script, given what follows if it is left off. The fuel bounds the depth of the script and the rounds of
its loops. -/
def runWith (fuel : Nat) (refused : Shell → Task) (script : Script) : StateT Shell Act Unit :=
  match fuel with
  | 0 => fun s _ => .exit (s.status % 256)
  | fuel + 1 => executeScript fuel script { run := runWith fuel, refused, stopped := refused }

end BatchJob.Machine.Shell
