import BatchJob.Machine.Shell.Builtin.Basic
import BatchJob.Machine.Shell.Condition

/-!
# Commands on the shell itself

The commands that turn switches on and off, set the positions, and keep other names for commands.
-/

namespace BatchJob.Machine.Shell.Builtin

/-! ## Switches -/

/-- A name in a column of its own, and a text after it. -/
def inColumns (width : Nat) (name gap text : String) : String :=
  name ++ String.ofList (List.replicate (width - name.length) ' ') ++ gap ++ text ++ "\n"

/-- The list of all switches: how they stand, or the commands that set them as they stand. -/
def switchList (s : Shell) (asCommands : Bool) : String :=
  let names := (switchTable s.dialect).map Prod.fst
  let state (name : String) : String := if s.isOn name then "on" else "off"
  if asCommands then String.join (names.map fun name => "set " ++ (if s.isOn name then "-o " else "+o ") ++ name ++ "\n")
  else
    match s.dialect with
    | .standard =>
      "Current option settings\n" ++ String.join (names.map fun name => inColumns 16 name "" (state name))
    | .extended => String.join (names.map fun name => inColumns 15 name "\t" (state name))

/-- The switches that the letter of another one turns off. -/
def opposites : Dialect → Char → List String
  | .standard, 'V' => ["emacs"]
  | .standard, 'E' => ["vi"]
  | _, _ => []

/-- Turns switches on or off by their letters. -/
def turnLetters (isOn : Bool) : List Char → Deed Unit
  | [] => return
  | letter :: rest => do
    match (← get).switch? letter with
    | some switch =>
      if isOn then modify fun s => (opposites s.dialect letter).foldl (fun s other => s.turn other false) s
      modify (·.turn switch isOn)
    | none =>
      match (← get).dialect with
      | .standard => Deed.stop ("set: Illegal option -" ++ String.singleton letter)
      | .extended =>
        Deed.complain ("set: " ++ (if isOn then "-" else "+") ++ String.singleton letter ++ ": invalid option")
        sayUsage "set"
        Deed.done 2
        fun around s _ => around.stopped s
    turnLetters isOn rest

/-- Turns a switch on or off by its name. -/
def turnNamed (name : String) (isOn : Bool) : Deed Unit := do
  let s ← get
  if (switchTable s.dialect).any (·.1 = name) then modify (·.turn name isOn)
  else
    match s.dialect with
    | .standard => Deed.stop ("set: Illegal option " ++ (if isOn then "-" else "+") ++ "o " ++ name)
    | .extended => Deed.stop ("set: " ++ name ++ ": invalid option name")

/-- Carries out the options at the front of arguments; answers the new positions, if there are any. The fuel is the
number of arguments at most. -/
def takeSwitches (fuel : Nat) (arguments : List String) : Deed (Option (List String)) := do
  match fuel, arguments with
  | 0, _ | _, [] => return none
  | _, "--" :: rest => return some rest
  | _, "-" :: rest => do
    modify fun s => (s.turn "xtrace" false).turn "verbose" false
    return if rest.isEmpty then none else some rest
  | fuel + 1, argument :: rest =>
    match argument.toList with
    | sign :: letters =>
      if (sign = '-' || sign = '+') && (!letters.isEmpty || (← get).dialect = .standard) then
        let isOn := sign = '-'
        turnLetters isOn (letters.filter (· != 'o'))
        if letters.contains 'o' then
          match rest with
          | name :: rest =>
            turnNamed name isOn
            takeSwitches fuel rest
          | [] =>
            Deed.write "set" (switchList (← get) (!isOn))
            return none
        else takeSwitches fuel rest
      else return some (argument :: rest)
    | [] => return some (argument :: rest)

/-- Turns switches on and off, and sets the positions. -/
def adjust (showAll : Deed Unit) : Builtin := fun arguments => do
  Deed.done 0
  if arguments.isEmpty then showAll
  else
    let positions ← takeSwitches (arguments.length + 1) arguments
    let s ← get
    if !s.isExtended && s.isOn "monitor" then
      remark "set" "can't access tty; job control turned off" 0
      modify (·.turn "monitor" false)
    positions.forM fun arguments => modify fun s => { s with arguments }

/-- The further switches of the extended dialect, in the order of their names. -/
def furtherSwitches : List String :=
  ["autocd", "assoc_expand_once", "cdable_vars", "cdspell", "checkhash", "checkjobs", "checkwinsize", "cmdhist",
    "compat31", "compat32", "compat40", "compat41", "compat42", "compat43", "compat44", "complete_fullquote",
    "direxpand", "dirspell", "dotglob", "execfail", "expand_aliases", "extdebug", "extglob", "extquote", "failglob",
    "force_fignore", "globasciiranges", "globskipdots", "globstar", "gnu_errfmt", "histappend", "histreedit",
    "histverify", "hostcomplete", "huponexit", "inherit_errexit", "interactive_comments", "lastpipe", "lithist",
    "localvar_inherit", "localvar_unset", "login_shell", "mailwarn", "no_empty_cmd_completion", "nocaseglob",
    "nocasematch", "noexpand_translation", "nullglob", "patsub_replacement", "progcomp", "progcomp_alias",
    "promptvars", "restricted_shell", "shift_verbose", "sourcepath", "varredir_close", "xpg_echo"]

/-- The further switches that are on from the start. -/
def furtherSwitchesOn : List String :=
  ["checkwinsize", "cmdhist", "complete_fullquote", "extquote", "force_fignore", "globasciiranges", "globskipdots",
    "hostcomplete", "interactive_comments", "patsub_replacement", "progcomp", "promptvars", "sourcepath"]

/-- Turns further switches on and off, and shows them. -/
def shopt : Builtin := fun arguments => do
  let (options, names) ← takeOptions "shopt" (flags "pqsuo") arguments
  let known := if has 'o' options then (switchTable .extended).map Prod.fst else furtherSwitches
  Deed.done 0
  let shown (s : Shell) (name : String) : String :=
    if has 'q' options then ""
    else if has 'p' options then
      if has 'o' options then "set " ++ (if s.isOn name then "-o " else "+o ") ++ name ++ "\n"
      else "shopt " ++ (if s.isOn name then "-s " else "-u ") ++ name ++ "\n"
    else inColumns 15 name "\t" (if s.isOn name then "on" else "off")
  let changes := has 's' options || has 'u' options
  if names.isEmpty then
    let s ← get
    let names := if changes then known.filter (s.isOn · = has 's' options) else known
    Deed.write "shopt" (String.join (names.map (shown s)))
  else
    for name in names do
      let s ← get
      if !known.contains name then
        remark "shopt" (name ++ (if has 'o' options then ": invalid option name" else ": invalid shell option name")) 1
      else if changes then modify (·.turn name (has 's' options))
      else
        Act.say Task.standardOutput (shown s name)
        if !s.isOn name then Deed.done 1

/-! ## Positions -/

/-- Drops positions from the front. -/
def shift : Builtin := fun arguments => do
  let s ← get
  let count ← match arguments with
    | [] => pure 1
    | text :: _ =>
      match Condition.number text, s.dialect with
      | .ok (.ofNat n), _ => pure n
      | .ok _, .extended => fault "shift" "" (text ++ ": shift count out of range")
      | .error _, .extended => fault "shift" "" (text ++ ": numeric argument required")
      | _, .standard => Deed.stop ("shift: Illegal number: " ++ text)
  if s.arguments.length < count then
    match s.dialect with
    | .standard => Deed.stop "shift: can't shift that many"
    | .extended => Deed.done 1
  else
    modify fun s => { s with arguments := s.arguments.drop count }
    Deed.done 0

/-! ## Aliases -/

/-- How an alias is shown. -/
def shownAlias (s : Shell) (name text : String) : String :=
  (if s.isExtended then "alias " ++ name ++ "=" ++ Quoted.reusable text
    else name ++ "=" ++ Quoted.withDoubleQuotes text) ++ "\n"

/-- The aliases in the order in which they are shown. -/
def orderedAliases (s : Shell) : List (String × String) :=
  match s.dialect with
  | .standard => s.aliases.mergeSort fun a b => tablePlace .standard a.1 ≤ tablePlace .standard b.1
  | .extended => s.aliases.mergeSort fun a b => a.1 ≤ b.1

/-- Keeps and shows other names for commands. -/
def setAliases : Builtin := fun arguments => do
  let (options, arguments) ←
    if (← get).isExtended then takeOptions "alias" (flags "p") arguments else pure ([], arguments)
  Deed.done 0
  if arguments.isEmpty || has 'p' options then
    let s ← get
    Deed.write "alias" (String.join ((orderedAliases s).map fun (name, text) => shownAlias s name text))
  for argument in arguments do
    let s ← get
    match (argument.toList.drop 1).dropWhile (· != '=') with
    | _ :: text =>
      let name := String.ofList (argument.toList.take (argument.length - text.length - 1))
      let entry := (name, String.ofList text)
      modify fun s =>
        if (s.aliases.lookup name).isSome then
          { s with aliases := s.aliases.map fun old => if old.1 = name then entry else old }
        else { s with aliases := s.aliases ++ [entry] }
    | [] =>
      match s.aliases.lookup argument, s.dialect with
      | some text, _ => Act.say Task.standardOutput (shownAlias s argument text)
      | none, .standard =>
        Act.complain ("alias: " ++ argument ++ " not found")
        Deed.done 1
      | none, .extended => remark "alias" (argument ++ ": not found") 1

/-- Forgets other names for commands. -/
def unalias : Builtin := fun arguments => do
  let (options, names) ← takeOptions "unalias" (flags "a") arguments
  Deed.done 0
  if has 'a' options then modify fun s => { s with aliases := [] }
  else if names.isEmpty && (← get).isExtended then
    sayUsage "unalias"
    Deed.done 2
  else
    for name in names do
      let s ← get
      if (s.aliases.lookup name).isSome then
        modify fun s => { s with aliases := s.aliases.filter (·.1 ≠ name) }
      else
        match s.dialect with
        | .standard =>
          Act.complain ("unalias: " ++ name ++ " not found")
          Deed.done 1
        | .extended => remark "unalias" (name ++ ": not found") 1

/-! ## Arithmetic -/

/-- Evaluates arithmetic expressions; fails if the last one is zero. -/
def evaluateAll : Builtin := fun arguments => do
  if arguments.isEmpty then Deed.stop "let: expression expected" 1
  for argument in arguments do
    let s ← get
    match Arithmetic.valueOf s argument.toList with
    | .ok (value, s) => set (s.ended (if value = 0 then 1 else 0))
    | .error fault => Deed.stop ("let: " ++ Arithmetic.complaint .extended argument.toList fault) 1

end BatchJob.Machine.Shell.Builtin
