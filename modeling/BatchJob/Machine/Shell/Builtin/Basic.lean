import BatchJob.Machine.Shell.Expansion
import BatchJob.Machine.Voice
import BatchJob.ProgramPath

/-!
# Commands of the shell itself

What the commands that a shell carries out without starting a program have in common: how they take options,
what they say of arguments they have no use for, and where they look for programs.
-/

namespace BatchJob.Machine.Shell

/-- A command of the shell itself, given its arguments. -/
abbrev Builtin := List String → Deed Unit

/-- Whose words a shell uses. -/
def voice (s : Shell) : Voice :=
  match s.dialect with
  | .standard => .standard
  | .extended => .extended

/-- The path that programs are searched on. -/
def searchPath (s : Shell) : String :=
  (s.value? "PATH").getD ""

namespace Builtin

/-- Leaves a command off, with the words of the dialect. -/
def fault {α : Type} (command standard extended : String) (status : Nat := 1) : Deed α := do
  match (← get).dialect with
  | .standard => Deed.stop (command ++ ": " ++ standard)
  | .extended => Deed.stop (command ++ ": " ++ extended) status

/-- Says what is wrong with an argument, and goes on. -/
def remark (command text : String) (status : Nat) : Deed Unit := do
  Deed.complain (command ++ ": " ++ text)
  Deed.done status

/-- How the commands of the extended dialect are used. -/
def usages : List (String × String) :=
  [("cd", "[-L|[-P [-e]] [-@]] [dir]"), ("pwd", "[-LP]"), ("unset", "[-f] [-v] [-n] [name ...]"),
    ("set", "[-abefhkmnptuvxBCEHPT] [-o option-name] [--] [-] [arg ...]"),
    ("read", "[-ers] [-a array] [-d delim] [-i text] [-n nchars] [-N nchars] [-p prompt] [-t timeout] [-u fd] " ++
      "[name ...]"),
    ("export", "[-fn] [name[=value] ...] or export -p"),
    ("readonly", "[-aAf] [name[=value] ...] or readonly -p"),
    ("declare", "[-aAfFgiIlnrtux] [name[=value] ...] or declare -p [-aAfFilnrtux] [name ...]"),
    ("typeset", "[-aAfFgiIlnrtux] name[=value] ... or typeset -p [-aAfFilnrtux] [name ...]"),
    ("local", "[option] name[=value] ..."), ("type", "[-afptP] name [name ...]"),
    ("alias", "[-p] [name[=value] ... ]"), ("unalias", "[-a] name [name ...]"),
    ("hash", "[-lr] [-p pathname] [-dt] [name ...]"), ("umask", "[-p] [-S] [mode]"),
    ("wait", "[-fn] [-p var] [id ...]"), ("jobs", "[-lnprs] [jobspec ...] or jobs -x command [args]"),
    ("kill", "[-s sigspec | -n signum | -sigspec] pid | jobspec ... or kill -l [sigspec]"),
    ("getopts", "optstring name [arg ...]"), ("shopt", "[-pqsu] [-o] [optname ...]"),
    ("printf", "[-v var] format [arguments]"), ("command", "[-pVv] command [arg ...]"),
    ("trap", "[-lp] [[arg] signal_spec ...]"), (".", ". filename [arguments]"), ("exec",
      "[-cl] [-a name] [command [argument ...]] [redirection ...]"),
    ("mapfile", "[-d delim] [-n count] [-O origin] [-s count] [-t] [-u fd] [-C callback] [-c quantum] [array]"),
    ("let", "arg [arg ...]")]

/-- Says how a command is used. -/
def sayUsage (command : String) : Deed Unit := do
  let usage := (usages.lookup command).getD ""
  Act.complain (command ++ ": usage: " ++ (if command = "." then usage else command ++ " " ++ usage))

/-- Leaves a command off because of an option that it does not know. -/
def badOption {α : Type} (command : String) (letter : Char) : Deed α := do
  match (← get).dialect with
  | .standard => Deed.stop (command ++ ": Illegal option -" ++ String.singleton letter)
  | .extended =>
    Deed.complain (command ++ ": -" ++ String.singleton letter ++ ": invalid option")
    sayUsage command
    Deed.done 2
    fun around s _ => around.stopped s

/-- The options among the letters of an argument, and whether the last one has to have a value that is the next
argument; or the letter that is no option. -/
def optionsIn (known : List (Char × Bool)) : List Char → Except Char (List (Char × String) × Option Char)
  | [] => .ok ([], none)
  | c :: rest =>
    match known.lookup c with
    | none => .error c
    | some false => (optionsIn known rest).map fun (options, open?) => ((c, "") :: options, open?)
    | some true => if rest.isEmpty then .ok ([], some c) else .ok ([(c, String.ofList rest)], none)

/-- Takes the options from the front of arguments: their letters, each with its value. -/
def takeOptions (command : String) (known : List (Char × Bool)) (arguments : List String) :
    Deed (List (Char × String) × List String) := do
  match arguments with
  | [] => return ([], [])
  | "--" :: rest => return ([], rest)
  | argument :: rest =>
    match argument.toList with
    | '-' :: c :: letters =>
      match optionsIn known (c :: letters), rest with
      | .error c, _ => badOption command c
      | .ok (options, none), rest =>
        let (others, rest) ← takeOptions command known rest
        return (options ++ others, rest)
      | .ok (options, some c), value :: rest =>
        let (others, rest) ← takeOptions command known rest
        return (options ++ (c, value) :: others, rest)
      | .ok (_, some c), [] =>
        fault command ("No arg for -" ++ String.singleton c ++ " option")
          ("-" ++ String.singleton c ++ ": option requires an argument") 2
    | _ => return ([], argument :: rest)

/-- Letters that are options without values. -/
def flags (letters : String) : List (Char × Bool) :=
  letters.toList.map (·, false)

/-- Whether an option is among some. -/
def has (letter : Char) (options : List (Char × String)) : Bool :=
  (options.lookup letter).isSome

/-- Fails unless a text is the name of a variable. -/
def checkName (command text : String) : Deed Unit := do
  if !isVariableName text then
    fault command (text ++ ": bad variable name") ("\x60" ++ text ++ "': not a valid identifier")

/-- Sets a variable for a command, unless its value stays as it is. -/
def assign (command name value : String) : Deed Unit := do
  let s ← get
  if s.isFixed name then
    match s.dialect with
    | .standard => Deed.stop (command ++ ": " ++ name ++ ": is read only")
    | .extended => Deed.stop (name ++ ": readonly variable") 1
  else assignOrRefuse name value

/-! ## Programs -/

/-- The directories in which programs are searched for; the empty one is where the shell is. -/
def directories (searchPath : String) : List String :=
  (ProgramPath.splitOn ':' searchPath.toList).map String.ofList

/-- What a search for a program comes to. -/
inductive Search
  /-- This path is executed. -/
  | found (path : String)
  /-- There is something of this name, but nothing that can be executed. -/
  | unfit
  | nothing

/-- Searches for the program with a name: the first file that can be executed. In the extended dialect another file
is taken if there is none, and without any directories the name itself is the path. -/
def search (dialect : Dialect) (fs : FileSystem) (searchPath name : String) : Search :=
  if name.toList.contains '/' || (dialect = .extended && searchPath.isEmpty) then .found name
  else
    let join (directory : String) : String :=
      if directory.isEmpty then name else ProgramPath.join directory name
    let candidates := (directories searchPath).map join
    let isFile (path : String) : Bool :=
      match fs.lookup (Text.ofOctets path) with
      | .ok (.file ..) | .ok (.program _) => true
      | _ => false
    let isThere (path : String) : Bool := (fs.lookup (Text.ofOctets path)).isOk
    match candidates.find? fun path => fs.isExecutable (Text.ofOctets path), dialect with
    | some path, _ => .found path
    | none, .extended => ((candidates.find? isFile).map Search.found).getD .nothing
    | none, .standard => if candidates.any isThere then .unfit else .nothing

/-- Where programs are searched for when no variable says so. -/
def defaultPath : String := "/usr/local/sbin:/usr/local/bin:/usr/sbin:/usr/bin:/sbin:/bin"

/-- Whether a path leads to a directory. -/
def isDirectory (fs : FileSystem) (path : String) : Bool :=
  match fs.lookup (Text.ofOctets path) with
  | .ok (.directory _) => true
  | _ => false

end Builtin

end BatchJob.Machine.Shell
