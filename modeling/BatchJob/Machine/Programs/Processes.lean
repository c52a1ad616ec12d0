import BatchJob.Environment
import BatchJob.Machine.Programs.Basic
import BatchJob.Machine.Shell.Format
import BatchJob.ProgramPath

/-!
# Programs on processes and words

The programs that run other programs, wait, send signals or say where and as whom they run, and those that write their
arguments.
-/

namespace BatchJob.Machine.Programs

/-! ## Writing -/

/-- Writes its arguments, between blanks. -/
def echo : Program := fun call =>
  write call (Written.ofEcho .program call.arguments)

/-- Writes formatted arguments. -/
def printf : Program := fun call => do
  let arguments := if call.arguments.head? = some "--" then call.arguments.drop 1 else call.arguments
  match arguments with
  | [] => missingOperand call "operand" []
  | format :: arguments =>
    let (written, left) := Written.printf .program format arguments
    written.complaints.forM (remark call)
    write call (String.ofList written.text)
    match written.fault, left with
    | some what, _ => fail call 1 what
    | none, first :: _ =>
      if !written.isCut then
        remark call ("warning: ignoring excess arguments, starting with " ++ Named.plain first)
    | none, [] => pure ()
    if !written.complaints.isEmpty then Act.exit 1

/-! ## Environments -/

/-- An environment without a variable. -/
def without (environment : List (String × String)) (name : String) : List (String × String) :=
  environment.filter (·.1 ≠ name)

/-- Where programs are searched for when no variable says so. -/
def systemPath : String := "/bin:/usr/bin"

/-- Becomes the program with a name, which is searched for on the path of the environment; answers why that fails. -/
def become (environment : List (String × String)) (command : List String) : Act Errno := do
  let name := command.headD ""
  let fs ← Act.look
  let searchPath := (environment.lookup "PATH").getD systemPath
  let directories := (ProgramPath.splitOn ':' searchPath.toList).map String.ofList
  let inDirectory (directory : String) : String :=
    if directory.isEmpty then name else ProgramPath.join directory name
  let candidates := if name.toList.contains '/' then [name] else directories.map inDirectory
  let isExecutable (path : String) : Bool := fs.isExecutable (Text.ofOctets path)
  if name.isEmpty then return .noent
  match candidates.find? isExecutable with
  | none =>
    match name.toList.contains '/', nodeAt fs name with
    | true, .error e => return e
    | true, .ok _ => return .acces
    | false, _ =>
      let isFile (path : String) : Bool := (nodeAt fs path).toOption.any fun node => !(node matches .directory _)
      return if candidates.any isFile then .acces else .noent
  | some path =>
    let e ← Act.execute path command environment
    if e = .noexec then Act.execute "/bin/sh" ("/bin/sh" :: path :: command.drop 1) environment else return e

/-- A text parted into words as a shell would do it, with quotes, backslashes and variables in braces. The fuel is the
length of the text at most. -/
def splitWords (environment : List (String × String)) (fuel : Nat) (quote : Option Char) (word : Option (List Char))
    (text : List Char) : Except String (List String) :=
  let add (c : Char) : Option (List Char) := some (word.getD [] ++ [c])
  let ended : List String := (word.map String.ofList).toList
  match fuel, text with
  | 0, _ => .ok ended
  | _, [] => if quote.isSome then .error "no terminating quote in -S string" else .ok ended
  | fuel + 1, c :: rest =>
    let goOn (quote : Option Char) (word : Option (List Char)) (rest : List Char) : Except String (List String) :=
      splitWords environment fuel quote word rest
    if quote = some c then goOn none (some (word.getD [])) rest
    else if quote.isNone && (c = '\'' || c = '"') then goOn (some c) (some (word.getD [])) rest
    else if quote.isNone && (c = ' ' || (9 ≤ c.toNat && c.toNat ≤ 13)) then
      (goOn none none rest).map (ended ++ ·)
    else if quote.isNone && c = '#' && word.isNone then .ok ended
    else if c = '\\' && quote ≠ some '\'' then
      match rest with
      | [] => .error "invalid backslash at end of string in -S"
      | d :: rest =>
        if "\"'\\#$ ".toList.contains d then goOn quote (add d) rest
        else if d = '_' then (if quote.isSome then goOn quote (add ' ') rest else (goOn none none rest).map (ended ++ ·))
        else if d = 'c' then (if quote.isSome then .error "'\\c' must not appear in double-quoted -S string" else .ok ended)
        else
          match d with
          | 'n' => goOn quote (add '\n') rest
          | 't' => goOn quote (add '\t') rest
          | 'r' => goOn quote (add '\r') rest
          | 'f' => goOn quote (add '\x0c') rest
          | 'v' => goOn quote (add '\x0b') rest
          | _ => .error ("invalid sequence '\\" ++ String.singleton d ++ "' in -S")
    else if c = '$' && quote ≠ some '\'' then
      let name := (rest.drop 1).takeWhile fun c => c.isAlphanum || c == '_'
      if rest.head? = some '\x7b' && (rest.drop (name.length + 1)).head? = some '\x7d' && !name.isEmpty then
        let value := (environment.lookup (String.ofList name)).getD ""
        let rest := rest.drop (name.length + 2)
        if value.isEmpty && word.isNone && quote.isNone then goOn quote word rest
        else goOn quote (some (word.getD [] ++ value.toList)) rest
      else .error ("only $\x7bVARNAME\x7d expansion is supported, error at: " ++ String.ofList (c :: rest))
    else goOn quote (add c) rest

/-- The options of `env`. -/
def envOptions : List Known :=
  [flag "i ignore-environment", flag "0 null", valued "u unset", valued "C chdir", valued "S split-string",
    flag "v debug", maybeValued "block-signal", maybeValued "default-signal", maybeValued "ignore-signal",
    flag "list-signal-handling"]

/-- Takes the options of `env`, those in texts that are to be parted into words included. The fuel bounds how often. -/
def takeEnvOptions (call : Call) (fuel : Nat) (arguments : List String) : Act (Options × List String) := do
  let (options, operands) ← takeOptions { call with arguments } envOptions 125 false
  match fuel, options.value? "S" with
  | fuel + 1, some text =>
    match splitWords call.environment (text.length + 1) none none text.toList with
    | .error what => fail call 125 what
    | .ok words =>
      let (others, operands) ← takeEnvOptions call fuel (words ++ operands)
      return (options ++ others, operands)
  | _, _ => return (options, operands)

/-- Writes an environment, or runs a command in it. -/
def env : Program := fun call => do
  let (options, operands) ← takeEnvOptions call 8 call.arguments
  let isCleared := options.has "i" || operands.head? = some "-"
  let operands := if operands.head? = some "-" then operands.drop 1 else operands
  let mut environment := if isCleared then [] else call.environment
  for (key, name) in options do
    if key = "u" then
      if name.isEmpty || name.toList.contains '=' then
        fail call 125 ("cannot unset " ++ Named.plain name ++ ": " ++ Errno.inval.libraryPhrase)
      environment := without environment name
  let isSetting (operand : String) : Bool := operand.toList.contains '='
  for operand in operands.takeWhile isSetting do
    let name := operand.toList.takeWhile (· != '=')
    environment := Environment.setPair environment (String.ofList name)
      (String.ofList (operand.toList.drop (name.length + 1)))
  let command := operands.dropWhile isSetting
  if options.has "0" && !command.isEmpty then misuse call 125 "cannot specify --null (-0) with command"
  match options.value? "C" with
  | none => pure ()
  | some directory =>
    if command.isEmpty then misuse call 125 "must specify command with --chdir (-C)"
    match ← (fun k => .enter directory k : Act (Option Errno)) with
    | none => pure ()
    | some e => fail call 125 ("cannot change directory to " ++ Named.quoted directory ++ ": " ++ e.libraryPhrase)
  match command with
  | [] =>
    let ending := if options.has "0" then "\x00" else "\n"
    write call (String.join (environment.map fun (name, value) => name ++ "=" ++ value ++ ending)) 125
  | name :: _ =>
    if options.has "v" then
      Act.complain ("executing: " ++ name)
      for (argument, i) in command.zipIdx do
        Act.complain ("   arg[" ++ toString i ++ "]= " ++ Named.plain argument)
    let e ← become environment command
    remark call (Named.plain name ++ ": " ++ e.libraryPhrase)
    if e = .noent && name.toList.any fun c => c == ' ' || c == '\t' then
      remark call "use -[v]S to pass options in shebang lines"
    Act.exit (if e = .noent then 127 else 126)

/-- Writes the values of variables. -/
def printenv : Program := fun call => do
  let (options, names) ← takeOptions call [flag "0 null"] 2 false
  let environment := call.environment
  let ending := if options.has "0" then "\x00" else "\n"
  if names.isEmpty then
    write call (String.join (environment.map fun (name, value) => name ++ "=" ++ value ++ ending)) 2
  else
    let values := names.filterMap fun name => environment.lookup name
    write call (String.join (values.map (· ++ ending))) 2
    if values.length ≠ names.length then Act.exit 1

/-- Becomes a program that goes on when its terminal is gone. -/
def nohup : Program := fun call => do
  let (_, command) ← takeOptions call [] 125 false
  match command with
  | [] => missingOperand call "operand" [] 125
  | name :: _ =>
    (fun k => .regard .hup (some .ignored) (k ()) : Act Unit)
    let e ← become call.environment command
    remark call ("failed to run command " ++ Named.quoted name ++ ": " ++ e.libraryPhrase)
    Act.exit (if e = .noent then 127 else 126)

/-- Becomes a program in a process group of its own; a process that leads one already starts another process for it. -/
def setsid : Program := fun call => do
  let (options, command) ← takeOptions call [flag "c ctty", flag "f fork", flag "w wait"] 1 false
  match command with
  | [] => misuse call 1 "no command specified"
  | name :: _ =>
    let run : Act Unit := do
      let e ← become call.environment command
      remark call ("failed to execute " ++ name ++ ": " ++ e.libraryPhrase)
      Act.exit (if e = .noent then 127 else 126)
    let detach : Act Bool := fun k => .detach k
    let inChild : Act Unit := do
      discard detach
      run
    let pid? ← (fun k =>
      if options.has "f" then .fork inChild.toTask fun pid => k (some pid)
      else .detach fun isNew => if isNew then k none else .fork inChild.toTask fun pid => k (some pid) :
        Act (Option Pid))
    match pid? with
    | none => run
    | some pid =>
      if options.has "w" then
        let status ← (fun k => .await pid k : Act ChildStatus)
        Act.exit (match status with
          | .exited code => code.toInt.toNat
          | .signaled signal => 128 + signal.number)

/-! ## Time and signals -/

/-- How many nanoseconds a unit has. -/
def timeUnit? : List Char → Option Nat
  | [] | ['s'] => some (Nat.pow 10 9)
  | ['m'] => some (60 * Nat.pow 10 9)
  | ['h'] => some (3600 * Nat.pow 10 9)
  | ['d'] => some (86400 * Nat.pow 10 9)
  | _ => none

/-- The longest time that is waited for, in nanoseconds. -/
def longest : Nat := Nat.pow 10 18

/-- The nanoseconds of a duration with decimals and a unit. -/
def duration? (text : String) : Option Nat :=
  match Decimal.take? text.toList with
  | some (.quotient false n d, rest) => (timeUnit? rest).map fun unit => min longest (n * unit / d)
  | some (.infinite false, rest) => (timeUnit? rest).map fun _ => longest
  | _ => none

/-- Lets the durations pass that its arguments name. -/
def sleep : Program := fun call => do
  let (_, operands) ← takeOptions call []
  if operands.isEmpty then missingOperand call "operand" []
  let wrong := operands.filter fun operand => (duration? operand).isNone
  wrong.forM fun operand => remark call ("invalid time interval " ++ Named.plain operand)
  if !wrong.isEmpty then
    Act.complain (hint call)
    Act.exit 1
  (fun k => .pause ((operands.filterMap duration?).foldl (· + ·) 0) (k ()) : Act Unit)

/-- The signals that have names, in lines that are not too long. -/
def signalNames : String :=
  let names := (List.range 32).filterMap fun (n : Nat) => (Signal.ofNumber? n).map Signal.shortName
  let names := names.map fun name => if name = "IO" then "POLL" else name
  (names.foldl (fun (text, width) name =>
    if width = 0 then (name, name.length)
    else if width + 1 + name.length ≤ 78 then (text ++ " " ++ name, width + 1 + name.length)
    else (text ++ "\n" ++ name, name.length)) ("", 0)).1 ++ "\n"

/-- The signal that a text names. -/
def namedSignal? (text : String) : Option (Option Signal) :=
  if text = "0" then some none
  else
    match text.toNat? with
    | some n => (Signal.ofNumber? n).map some
    | none => (Signal.all.find? fun s => s.shortName == text.toUpper || s.name == text.toUpper).map some

/-- How signals are sent. -/
def killUsage : String :=
  "\nUsage:\n kill [options] <pid> [...]\n\nOptions:\n <pid> [...]            send signal to every <pid> listed\n" ++
    " -<signal>, -s, --signal <signal>\n                        specify the <signal> to be sent\n" ++
    " -q, --queue <value>    integer value to be sent with the signal\n" ++
    " -l, --list=[<signal>]  list all signal names, or convert one to a name\n" ++
    " -L, --table            list all signal names in a nice table\n\n" ++
    " -h, --help     display this help and exit\n -V, --version  output version information and exit\n\n" ++
    "For more details see kill(1).\n"

/-- Sends a signal to processes, or writes names of signals. -/
def kill : Program := fun call => do
  let sendTo (signal : Option Signal) (targets : List String) : Act Unit := do
    if targets.isEmpty then
      Act.say Task.standardError killUsage
      Act.exit 1
    let mut status := 0
    for target in targets do
      match target.toInt? with
      | none =>
        remark call ("failed to parse argument: '" ++ target ++ "'")
        status := 1
      | some n =>
        if !(← (fun k => .send (Int32.ofInt n) signal k : Act Bool)) then
          remark call ("(" ++ target ++ "): " ++ Errno.srch.libraryPhrase)
          status := 1
    Act.exit status
  let named (text : String) (targets : List String) : Act Unit := do
    match namedSignal? text with
    | some signal => sendTo signal targets
    | none =>
      remark call ("invalid argument " ++ String.ofList (text.toList.take 1))
      Act.say Task.standardError killUsage
      Act.exit 1
  match call.arguments with
  | ["-l"] | ["--list"] => write call signalNames
  | ["-l", text] =>
    match text.toNat?, namedSignal? text with
    | some _, some (some signal) => write call (signal.shortName ++ "\n")
    | none, some (some signal) => write call (toString signal.number ++ "\n")
    | _, _ => fail call 1 ("unknown signal name " ++ text)
  | "-s" :: text :: targets | "-n" :: text :: targets | "--signal" :: text :: targets => named text targets
  | "--" :: targets => sendTo (some .term) targets
  | first :: targets =>
    match first.toList with
    | '-' :: c :: text => named (String.ofList (c :: text)) (if targets.head? = some "--" then targets.drop 1 else targets)
    | _ => sendTo (some .term) (first :: targets)
  | [] => sendTo none []

/-! ## Where and who -/

/-- Writes the name of the working directory. -/
def pwd : Program := fun call => do
  let (options, operands) ← takeOptions call [flag "L logical", flag "P physical"]
  if !operands.isEmpty then remark call "ignoring non-option arguments"
  let fs ← Act.look
  let path := Text.toOctets fs.workingPath
  let logical? : Option String :=
    if options.last? ["L", "P"] = some "L" then
      (call.environment.lookup "PWD").filter fun named =>
        match locate fs named with
        | .ok (.node name _) => named.startsWith "/" && name = fs.workingDirectory
        | _ => false
    else none
  write call (logical?.getD path ++ "\n")

/-- Writes the number or the name of the account that all processes run under. -/
def id : Program := fun call => do
  let (options, names) ← takeOptions call
    [flag "a", flag "g group", flag "G groups", flag "n name", flag "r real", flag "u user", flag "z zero",
      flag "Z context"]
  let asked := ["u", "g", "G"].filter options.has
  if 1 < asked.length then fail call 1 "cannot print \"only\" of more than one choice"
  if asked.isEmpty && (options.has "n" || options.has "r") then
    fail call 1 "cannot print only names or real IDs in default format"
  if asked.isEmpty && options.has "z" then fail call 1 "option --zero not permitted in default format"
  let ending := if options.has "z" then "\x00" else "\n"
  let text :=
    if asked.isEmpty then "uid=0(root) gid=0(root) groups=0(root)"
    else if options.has "n" then "root" else "0"
  let mut status := 0
  for name in if names.isEmpty then ["root"] else names do
    if name = "root" || name = "0" then write call (text ++ ending)
    else
      remark call (Named.plain name ++ ": no such user")
      status := 1
  Act.exit status

end BatchJob.Machine.Programs
