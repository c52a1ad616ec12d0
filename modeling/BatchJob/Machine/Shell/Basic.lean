import BatchJob.Machine.Shell.Variable

/-!
# Shells

What a shell knows while it runs a script: its parameters, its functions, its switches, and what its last commands
came to.
-/

namespace BatchJob.Machine

/-- A way in which a command leaves the commands around it. -/
inductive Leap
  /-- Out of a number of loops. -/
  | breakOut (loops : Nat)
  /-- To the next round of the last of a number of loops. -/
  | nextRound (loops : Nat)
  /-- Out of a function. -/
  | fromFunction
  deriving DecidableEq, Repr

/-- A process that was started in the background. -/
structure BackgroundJob where
  number : Nat
  pid : Pid
  /-- How it ended, once the shell knows. -/
  status : Option ChildStatus := none
  deriving DecidableEq

/-- What a shell knows while it runs a script. -/
structure Shell where
  dialect : Dialect
  /-- The name the shell was called by. -/
  name : String
  /-- What runs the present script inside of another one, as what is said of its commands names it. -/
  enclosing : String := ""
  arguments : List String := []
  bindings : List (String × Variable) := []
  /-- The former values of the variables that are local to functions, for each function that runs. -/
  frames : List (List (String × Option Variable)) := []
  /-- The switches that were on when the function that runs made them local. -/
  keptSwitches : Option (List String) := none
  functions : List (String × Script) := []
  aliases : List (String × String) := []
  /-- The paths of the programs that have been found, with how often they were run. -/
  found : List (String × String × Nat) := []
  /-- The names of the switches that are on. -/
  switches : List String := []
  /-- The limits that have been changed, by their letters and whether they are hard. -/
  limits : List ((Char × Bool) × String) := []
  /-- What is run on a signal, by the short name of the signal, and at the end, under the name `EXIT`. -/
  traps : List (String × String) := []
  /-- The process number of the shell that was started first, which its subshells keep. -/
  pid : Pid
  /-- The line of the present command. -/
  line : Nat := 1
  /-- The status of the last command. -/
  status : Nat := 0
  /-- The status of the last command in a word of the present command. -/
  substituted : Nat := 0
  /-- The statuses of the parts of the last pipeline. -/
  parts : List Nat := [0]
  /-- The last command that was started in the background. -/
  background : Option Pid := none
  /-- The commands in the background, the last one first. -/
  jobs : List BackgroundJob := []
  /-- How many descriptors are put aside. -/
  aside : Nat := 0
  /-- Whether the present command may fail because its status is looked at. -/
  isTested : Bool := false
  /-- Whether nothing is left to do after the present command. -/
  isLast : Bool := false
  /-- Whether the shell is a process that another shell has started. -/
  isInner : Bool := false
  /-- How many shells that are processes of their own are around the present one. -/
  level : Nat := 0
  /-- How many scripts in files are being run. -/
  sources : Nat := 0
  /-- How many texts that are run as scripts are around the present command. -/
  depth : Nat := 0
  /-- The names of the functions that run, the innermost one first. -/
  calls : List String := []
  /-- How many loops are around the present command. -/
  loops : Nat := 0
  leap : Option Leap := none
  /-- How many letters of the present argument have been read as options. -/
  lettersRead : Nat := 0

namespace Shell

/-- Whether a shell knows the extended dialect. -/
def isExtended (s : Shell) : Bool :=
  s.dialect = .extended

/-! ## Switches -/

/-- The switches with their letters. -/
def switchTable : Dialect → List (String × Option Char)
  | .standard =>
    [("errexit", some 'e'), ("noglob", some 'f'), ("ignoreeof", some 'I'), ("interactive", some 'i'),
      ("monitor", some 'm'), ("noexec", some 'n'), ("stdin", some 's'), ("xtrace", some 'x'),
      ("verbose", some 'v'), ("vi", some 'V'), ("emacs", some 'E'), ("noclobber", some 'C'),
      ("allexport", some 'a'), ("notify", some 'b'), ("nounset", some 'u'), ("privileged", some 'p'),
      ("nolog", none), ("debug", none)]
  | .extended =>
    [("allexport", some 'a'), ("braceexpand", some 'B'), ("emacs", none), ("errexit", some 'e'),
      ("errtrace", some 'E'), ("functrace", some 'T'), ("hashall", some 'h'), ("histexpand", some 'H'),
      ("history", none), ("ignoreeof", none), ("interactive-comments", none), ("keyword", some 'k'),
      ("monitor", some 'm'), ("noclobber", some 'C'), ("noexec", some 'n'), ("noglob", some 'f'),
      ("nolog", none), ("notify", some 'b'), ("nounset", some 'u'), ("onecmd", some 't'),
      ("physical", some 'P'), ("pipefail", none), ("posix", none), ("privileged", some 'p'),
      ("verbose", some 'v'), ("vi", none), ("xtrace", some 'x')]

/-- Whether a switch is on. -/
def isOn (s : Shell) (switch : String) : Bool :=
  s.switches.contains switch

/-- Turns a switch on or off. -/
def turn (s : Shell) (switch : String) (isOn : Bool) : Shell :=
  let others := s.switches.filter (· ≠ switch)
  { s with switches := if isOn then switch :: others else others }

/-- The switch with a letter. -/
def switch? (s : Shell) (letter : Char) : Option String :=
  ((switchTable s.dialect).find? (·.2 = some letter)).map Prod.fst

/-- The letters of the switches that are on. -/
def letters (s : Shell) : String :=
  let order : List Char :=
    match s.dialect with
    | .standard => ((switchTable .standard).filterMap Prod.snd).reverse
    | .extended => "abefhkmnptuvxBCEHPT".toList
  let isOn (c : Char) : Bool := (s.switch? c).any s.isOn
  let extra := (if s.isExtended && s.isOn "command" then ['c'] else []) ++
    if s.isExtended && s.isOn "stdin" then ['s'] else []
  String.ofList (order.filter isOn ++ extra)

/-! ## Variables -/

/-- The place of a name in a table of variables, whose order is that of the environment and of the keys of an
array. -/
def tablePlace (dialect : Dialect) (name : String) : Nat :=
  let codes := name.toList.map Char.toNat
  match dialect with
  | .standard => (codes.foldl (· + ·) (16 * codes.headD 0)) % 39
  | .extended => (codes.foldl (fun h c => (h * 16777619 % UInt32.size) ^^^ c) 2166136261) % 1024

/-- Texts under keys with one more, in the order of the places of the keys. -/
def insertKeyed (key value : String) (items : List (String × String)) : List (String × String) :=
  (items.filter (·.1 ≠ key) ++ [(key, value)]).mergeSort fun a b =>
    tablePlace .extended a.1 ≤ tablePlace .extended b.1

/-- The variable with a name. -/
def lookup? (s : Shell) (name : String) : Option Variable :=
  s.bindings.lookup name

/-- Replaces a variable. -/
def setVariable (s : Shell) (name : String) (entry : Variable) : Shell :=
  let lettersRead := if name = "OPTIND" then 0 else s.lettersRead
  let found := if name = "PATH" then [] else s.found
  if (s.lookup? name).isSome then
    { s with
      lettersRead, found
      bindings := s.bindings.map fun (other, old) => (other, if other = name then entry else old) }
  else { s with lettersRead, found, bindings := s.bindings ++ [(name, entry)] }

/-- Forgets a variable. -/
def unset (s : Shell) (name : String) : Shell :=
  { s with bindings := s.bindings.filter (·.1 ≠ name) }

/-- The text that a variable holds. -/
def value? (s : Shell) (name : String) : Option String :=
  ((s.lookup? name).bind (·.content)).bind Content.text?

/-- Whether the value of a variable stays as it is. -/
def isFixed (s : Shell) (name : String) : Bool :=
  (s.lookup? name).any (·.isFixed)

/-- Changes a variable, which is made if it is not there. -/
def changeVariable (s : Shell) (name : String) (change : Variable → Variable) : Shell :=
  let entry := (s.lookup? name).getD {}
  s.setVariable name (change { entry with isExported := entry.isExported || s.isOn "allexport" })

/-- Gives a variable a text. One of several texts keeps the others. -/
def assign (s : Shell) (name value : String) : Shell :=
  s.changeVariable name fun entry =>
    let content : Content :=
      match entry.content with
      | some (.indexed items) => .indexed (Content.insertAt 0 value items)
      | some (.keyed items) => .keyed (insertKeyed "0" value items)
      | _ => .text value
    { entry with content := some content }

/-- A value as a variable keeps it. -/
def recased (entry : Variable) (value : String) : String :=
  match entry.letterCase with
  | none => value
  | some .upper => value.map Char.toUpper
  | some .lower => value.map Char.toLower

/-- Marks a variable as local to the function that runs. -/
def keepLocal (s : Shell) (name : String) : Shell :=
  match s.frames with
  | [] => s
  | frame :: others =>
    if (frame.lookup name).isSome then s
    else { s with frames := ((name, s.lookup? name) :: frame) :: others }

/-- Gives a variable the value that was kept for it. -/
def restoreVariable (s : Shell) (name : String) (former : Option Variable) : Shell :=
  match former with
  | some entry => s.setVariable name entry
  | none => s.unset name

/-- Gives all variables that are local to the function that ends their former values. -/
def dropFrame (s : Shell) : Shell :=
  match s.frames with
  | [] => s
  | frame :: others => frame.foldl (fun s (name, former) => s.restoreVariable name former) { s with frames := others }

/-! ## What programs inherit -/

/-- The variables that programs inherit. -/
def environment (s : Shell) : List (String × String) :=
  let pairs := s.bindings.filterMap fun (name, entry) =>
    match entry.isExported, entry.content with
    | true, some (.text value) => some (name, value)
    | _, _ => none
  let pairs := if s.isExtended then pairs.reverse else pairs
  pairs.mergeSort fun a b => tablePlace s.dialect a.1 ≤ tablePlace s.dialect b.1

/-! ## Parameters -/

/-- Notes the status of a command. -/
def ended (s : Shell) (status : Nat) : Shell :=
  { s with status }

/-- The characters between fields where no variable says so. -/
def defaultSeparators : String := " \t\n"

/-- The characters that end a field. -/
def separators (s : Shell) : List Char :=
  ((s.value? "IFS").getD defaultSeparators).toList

/-- What stands between the positions where they are one text. -/
def positionJoint (s : Shell) : String :=
  String.ofList (s.separators.take 1)

/-- The value of a parameter: of a variable, a position, or one of the shell's own. -/
def parameter? (s : Shell) (name : String) : Option String :=
  match name with
  | "#" => some (toString s.arguments.length)
  | "?" => some (toString s.status)
  | "$" => some (toString s.pid)
  | "!" => s.background.map toString
  | "-" => some s.letters
  | "0" => some s.name
  | "*" => if s.arguments.isEmpty then none else some (s.positionJoint.intercalate s.arguments)
  | "@" => if s.arguments.isEmpty then none else some (" ".intercalate s.arguments)
  | "LINENO" => if s.isExtended then some (toString s.line) else s.value? name
  | _ =>
    match name.toNat? with
    | some position => if position = 0 then some s.name else s.arguments[position - 1]?
    | none => s.value? name

/-- The texts of a parameter that may have several. -/
def content? (s : Shell) (name : String) : Option Content :=
  match s.isExtended, name with
  | true, "FUNCNAME" =>
    if s.calls.isEmpty then none else some (.indexed (s.calls.mapIdx fun i name => (i, name)))
  | true, "BASH_SUBSHELL" => some (.text (toString s.level))
  | true, "PIPESTATUS" => some (.indexed (s.parts.mapIdx fun i status => (i, toString status)))
  | _, _ =>
    match (s.lookup? name).bind (·.content) with
    | some content => some content
    | none => (s.parameter? name).map .text

end Shell

end BatchJob.Machine
