import BatchJob.Machine.Shell.Run

/-!
# Shells as programs

How a shell is called: its options, where its script comes from, and what it knows from its environment before the
script runs.
-/

namespace BatchJob.Machine.Shell

/-- How deep a script may be, and how many rounds its loops may make. -/
def fuel : Nat := Nat.pow 10 6

/-- How a shell runs its scripts. -/
def runner : (Shell → Task) → Script → StateT Shell Act Unit :=
  runWith fuel

/-! ## What a shell knows at its start -/

/-- A variable with a text. -/
def holding (value : String) (isExported : Bool) : Variable :=
  { content := some (.text value), isExported }

/-- The variables that the standard dialect has places for before it knows the environment. -/
def standardVariables : List (String × Option String) :=
  [("HISTSIZE", none), ("TERM", none), ("OPTIND", some "1"), ("PS4", some "+ "), ("PS2", some "> "), ("PS1", some "# "),
    ("PATH", some Builtin.defaultPath), ("MAILPATH", none), ("MAIL", none), ("IFS", some defaultSeparators)]

/-- The variables of the extended dialect before it knows the environment. -/
def extendedVariables : List (String × String) :=
  [("BASH", "/bin/bash"), ("BASH_VERSION", "5.2.21(1)-release"), ("EUID", "0"), ("HOSTTYPE", "x86_64"),
    ("IFS", defaultSeparators), ("MACHTYPE", "x86_64-pc-linux-gnu"), ("OPTERR", "1"), ("OPTIND", "1"),
    ("OSTYPE", "linux-gnu"), ("PATH", Builtin.defaultPath), ("PS4", "+ "), ("SHELL", "/bin/bash"),
    ("SHLVL", "0"), ("TERM", "dumb"), ("UID", "0"), ("SECONDS", "0")]

/-- The variables that keep their values whatever the environment says. -/
def ownVariables : List (String × String) :=
  [("IFS", defaultSeparators), ("OPTIND", "1")]

/-- The variables before the environment is known. -/
def firstVariables : Dialect → List (String × Variable)
  | .standard => standardVariables.map fun (name, value) => (name, { content := value.map .text })
  | .extended => extendedVariables.map fun (name, value) => (name, holding value false)

/-- The working directory, as the environment names it if it names it rightly. -/
def directoryIn (fs : FileSystem) (environment : List (String × String)) : String :=
  let own := Text.toOctets fs.workingPath
  match environment.lookup "PWD" with
  | some path =>
    match fs.locate (Text.ofOctets path) with
    | .ok (.node name _) => if path.startsWith "/" && name = fs.workingDirectory then path else own
    | _ => own
  | none => own

/-- The level of a shell below a level that a text names. -/
def levelBelow (text : Option String) : String :=
  match (text.bind String.toInt?) with
  | some n => toString (if n < 0 then 0 else n + 1)
  | none => "1"

/-- A shell with what it knows from its environment. -/
def start (dialect : Dialect) (name : String) (environment : List (String × String)) (fs : FileSystem) (pid : Pid)
    (parent : Pid) : Shell :=
  let s : Shell := { dialect, name, pid, bindings := firstVariables dialect }
  let s := (environment.filter fun (name, _) => isVariableName name).foldl
    (fun s (name, value) => s.setVariable name (holding value true)) s
  let kept (s : Shell) (name value : String) : Shell :=
    s.changeVariable name fun entry => { entry with content := some (.text value) }
  let s := ownVariables.foldl (fun s (name, value) => kept s name value) s
  let s := kept s "PPID" (toString parent)
  let s := s.setVariable "PWD" (holding (directoryIn fs environment) true)
  match dialect with
  | .standard => s
  | .extended =>
    let s := s.setVariable "SHLVL" (holding (levelBelow (environment.lookup "SHLVL")) true)
    let s := if (s.lookup? "OLDPWD").isSome then s else s.setVariable "OLDPWD" { isExported := true }
    let s := s.setVariable "_" (holding name true)
    { s with switches := ["braceexpand", "hashall", "interactive-comments"] ++ Builtin.furtherSwitchesOn }

/-! ## Options -/

/-- Where a shell finds its script. -/
inductive ScriptPlace
  | argument
  | input
  | file
  deriving DecidableEq, Repr

/-- What the arguments of a shell say. -/
structure Invocation where
  place : ScriptPlace := .file
  /-- The arguments that are no options. -/
  words : List String := []
  switches : List (String × Bool) := []

/-- Why a shell cannot start. -/
inductive InvocationFault
  | option (text : String)
  | optionName (sign : String) (name : String)

/-- What the letters of an option say. -/
def readLetters (s : Shell) (isOn : Bool) (letters : List Char) (invocation : Invocation) :
    Except InvocationFault Invocation :=
  letters.foldlM (fun invocation letter =>
    let ignored := if s.isExtended then "lirD" else "l"
    if letter = 'c' then .ok { invocation with place := .argument }
    else if letter = 's' && invocation.place ≠ .argument then
      .ok { invocation with place := .input, switches := invocation.switches ++ [("stdin", true)] }
    else if letter = 's' || ignored.toList.contains letter then .ok invocation
    else
      match s.switch? letter with
      | some switch => .ok { invocation with switches := invocation.switches ++ [(switch, isOn)] }
      | none => .error (.option ((if isOn || !s.isExtended then "-" else "+") ++ String.singleton letter))) invocation

/-- The long options of the extended dialect, and whether a value follows them. -/
def longOptions : List (String × Bool) :=
  [("--debug", false), ("--debugger", false), ("--init-file", true), ("--login", false), ("--noediting", false),
    ("--noprofile", false), ("--norc", false), ("--posix", false), ("--rcfile", true), ("--restricted", false),
    ("--verbose", false)]

/-- Takes the options from the front of the arguments of a shell. The fuel is the number of arguments at most. -/
def readInvocation (s : Shell) (fuel : Nat) (arguments : List String) (invocation : Invocation) :
    Except InvocationFault Invocation :=
  match fuel, arguments with
  | 0, _ | _, [] => .ok invocation
  | _, "-" :: rest | _, "--" :: rest => .ok { invocation with words := rest }
  | fuel + 1, argument :: rest =>
    match s.isExtended, longOptions.lookup argument, argument.toList with
    | true, some hasValue, _ => readInvocation s fuel (if hasValue then rest.drop 1 else rest) invocation
    | true, none, '-' :: '-' :: _ => .error (.option argument)
    | _, _, sign :: letters =>
      if sign = '-' || (sign = '+' && !letters.isEmpty) then
        let isOn : Bool := sign = '-'
        let plain := letters.filter fun c => c != 'o' && !(s.isExtended && c == 'O')
        match readLetters s isOn plain invocation with
        | .error fault => .error fault
        | .ok invocation =>
          if letters.contains 'o' || (s.isExtended && letters.contains 'O') then
            let names := if letters.contains 'o' then (switchTable s.dialect).map Prod.fst else Builtin.furtherSwitches
            match rest with
            | name :: rest =>
              if names.contains name then
                readInvocation s fuel rest { invocation with switches := invocation.switches ++ [(name, isOn)] }
              else .error (.optionName (if isOn then "-" else "+") name)
            | [] => .ok invocation
          else readInvocation s fuel rest invocation
      else .ok { invocation with words := argument :: rest }
    | _, _, [] => .ok { invocation with words := argument :: rest }

/-- How the extended dialect is called. -/
def invocationUsage (name : String) : String :=
  "Usage:\t" ++ name ++ " [GNU long option] [option] ...\n\t" ++ name ++
    " [GNU long option] [option] script-file ...\nGNU long options:\n\t--debug\n\t--debugger\n\t--dump-po-strings\n" ++
    "\t--dump-strings\n\t--help\n\t--init-file\n\t--login\n\t--noediting\n\t--noprofile\n\t--norc\n\t--posix\n" ++
    "\t--pretty-print\n\t--rcfile\n\t--restricted\n\t--verbose\n\t--version\nShell options:\n" ++
    "\t-ilrsD or -c command or -O shopt_option\t\t(invocation only)\n\t-abefhkmnptuvxBCEHPT or -o option"

/-- Says why a shell cannot start, and ends it. -/
def invocationFailed (s : Shell) (fault : InvocationFault) : Act Unit := do
  match s.dialect, fault with
  | .standard, .option text => Act.complain (s.name ++ ": 0: Illegal option " ++ text)
  | .standard, .optionName sign name => Act.complain (s.name ++ ": 0: Illegal option " ++ sign ++ "o " ++ name)
  | .extended, .option text =>
    Act.complain (s.name ++ ": " ++ text ++ ": invalid option")
    Act.complain (invocationUsage s.name)
  | .extended, .optionName _ name => Act.complain (s.name ++ ": line 0: " ++ s.name ++ ": " ++ name ++ ": invalid option name")
  Act.exit 2

/-! ## The program -/

/-- A shell that cannot control jobs, since there is no terminal. -/
def withoutTerminal (s : Shell) : Act Shell := do
  if !s.isExtended && (s.isOn "monitor" || s.isOn "interactive") then
    Act.complain (s.name ++ ": 0: can't access tty; job control turned off")
    return s.turn "monitor" false
  else return s

/-- Runs a text as the script of a shell; the last command of an argument takes the place of the shell. -/
def runAs (s : Shell) (isLast : Bool) (source : Deed.Source) : Act Unit := do
  let s ← withoutTerminal s
  fun _ => Deed.toTask runner (Deed.runText source) { s with isLast }

/-- Says that a shell cannot read its script, and ends it. -/
def unreadable (s : Shell) (file : String) (e : Errno) : Act Unit := do
  match s.dialect with
  | .standard =>
    Act.complain (s.name ++ ": 0: " ++ openComplaint s .read file e)
    Act.exit 2
  | .extended =>
    Act.complain (s.name ++ ": " ++ file ++ ": " ++ e.libraryPhrase)
    Act.exit (if e = .noent || e = .notdir then 127 else 126)

/-- Runs the script that a descriptor gives. -/
def runFrom (s : Shell) (descriptor : Nat) : Act Unit := do
  match ← Act.readAll descriptor with
  | .ok text =>
    if descriptor ≠ Task.standardInput then Act.close descriptor
    runAs s false { text, isFile := true }
  | .error .isdir =>
    if s.isExtended then
      Act.complain (s.name ++ ": " ++ s.name ++ ": " ++ Errno.isdir.libraryPhrase)
      Act.exit 126
    else Act.exit 0
  | .error _ => Act.exit 0

/-- The shell as a program: runs the script that is given as an argument, in a file, or on the standard input. -/
def program (dialect : Dialect) (name : String) (arguments : List String) (environment : List (String × String)) :
    Act Unit := do
  let s := start dialect name environment (← Act.look) (← Act.ownPid) (← Act.parentPid)
  match readInvocation s (arguments.length + 1) arguments {} with
  | .error fault => invocationFailed s fault
  | .ok invocation =>
    let s := invocation.switches.foldl (fun s (switch, isOn) => s.turn switch isOn) s
    match invocation.place, invocation.words with
    | .argument, [] =>
      Act.complain (s.name ++ (if s.isExtended then ": -c: option requires an argument" else ": 0: -c requires an argument"))
      Act.exit 2
    | .argument, text :: rest =>
      let s := if s.isExtended then s.turn "command" true else s
      runAs { s with name := rest.headD s.name, arguments := rest.drop 1 } true { text }
    | .input, words => runFrom { s with arguments := words } Task.standardInput
    | .file, [] => runFrom (s.turn "stdin" true) Task.standardInput
    | .file, file :: rest =>
      match ← Act.openAt firstAside file .read with
      | none => runFrom { s with name := file, arguments := rest } firstAside
      | some e => unreadable s file e

end BatchJob.Machine.Shell
