import BatchJob.Machine.Shell.Builtin.Basic

/-!
# Commands on signals

The commands that send signals and that say what a shell does when one comes, and what it does then.
-/

namespace BatchJob.Machine.Shell.Builtin

/-! ## Names -/

/-- The number of the last signal. -/
def lastSignal : Nat := 64

/-- The short name of the signal with a number, or the number where a dialect has no name for it. -/
def signalName (dialect : Dialect) (n : Nat) : String :=
  match Signal.ofNumber? n with
  | some .stkflt => if dialect = .standard then toString n else Signal.stkflt.shortName
  | some signal => signal.shortName
  | none =>
    if n < 34 then toString n
    else if n = 34 then "RTMIN"
    else if n < 50 then "RTMIN+" ++ toString (n - 34)
    else if n < lastSignal then "RTMAX-" ++ toString (lastSignal - n)
    else "RTMAX"

/-- The signal that a text names, by its number or by its short name in either case; the extended dialect knows the
full names too. -/
def signal? (dialect : Dialect) (text : String) : Option Signal :=
  match text.toNat? with
  | some n => Signal.ofNumber? n
  | none =>
    let name := text.toUpper
    Signal.all.find? fun s => s.shortName == name || (dialect = .extended && s.name == name)

/-- The signal that a command is to send, none for the question whether there is a process; absent for a text that
names no signal. -/
def target? (dialect : Dialect) (text : String) : Option (Option Signal) :=
  if text = "0" then some none else (signal? dialect text).map some

/-! ## Sending -/

/-- The job that a text after a percent sign names. -/
def job? (s : Shell) (text : String) : Option BackgroundJob :=
  if text = "%" || text = "%+" || text = "%%" then s.jobs.head?
  else if text = "%-" then s.jobs[1]?
  else (String.ofList (text.toList.drop 1)).toNat?.bind fun n => s.jobs.find? (·.number = n)

/-- What is said of a job that there is not. -/
def noJob (s : Shell) (text : String) : String :=
  match s.dialect with
  | .standard =>
    if text = "%" || text = "%+" || text = "%%" then "No current job"
    else if text = "%-" then "No previous job"
    else "No such job: " ++ text
  | .extended => text ++ ": no such job"

/-- Sends a signal; answers whether there is such a process. -/
def send (target : Pid) (signal : Option Signal) : Deed Bool := fun _ s k =>
  .send target signal fun isThere => k (isThere, s)

/-- The process that an argument names. -/
def targetOf (text : String) : Deed Pid := do
  let s ← get
  if text.startsWith "%" then
    match job? s text, s.dialect with
    | some job, .standard => return -job.pid
    | some job, .extended => return job.pid
    | none, _ => fault "kill" (noJob s text) (noJob s text)
  else
    let digits := if text.startsWith "-" then String.ofList (text.toList.drop 1) else text
    match text.toInt?, digits.toNat? with
    | some n, some _ => return Int32.ofInt n
    | _, _ => fault "kill" ("Illegal number: " ++ digits) (text ++ ": arguments must be process or job IDs")

/-- Sends a signal to every process that arguments name. -/
def sendAll (signal : Option Signal) (targets : List String) : Deed Unit := do
  Deed.done 0
  for target in targets do
    let pid ← targetOf target
    if !(← send pid signal) then
      match (← get).dialect with
      | .standard => remark "kill" "No such process\n" 1
      | .extended => remark "kill" ("(" ++ target ++ ") - No such process") 1

/-- Says how signals are sent. -/
def killUsage : Deed Unit := do
  match (← get).dialect with
  | .standard =>
    Deed.stop "kill: Usage: kill [-s sigspec | -signum | -sigspec] [pid | job]... or\nkill -l [exitstatus]"
  | .extended =>
    Act.complain ("kill: usage: kill [-s sigspec | -n signum | -sigspec] pid | jobspec ... or kill -l [sigspec]")
    Deed.done 2

/-- The table of all signals of the extended dialect. -/
def signalTable : String :=
  let numbers := (List.range (lastSignal + 1)).filter fun n => n ≠ 0 && n ≠ 32 && n ≠ 33
  let entry (n i : Nat) : String :=
    (if n < 10 then " " else "") ++ toString n ++ ") SIG" ++ signalName .extended n ++ if i % 5 = 4 then "\n" else "\t"
  String.join (numbers.mapIdx fun i n => entry n i) ++ "\n"

/-- Writes names of signals. -/
def listSignals (arguments : List String) : Deed Unit := do
  let s ← get
  let below (n : Nat) : Nat := if 128 < n then n - 128 else n
  match arguments, s.dialect with
  | [], .standard =>
    let names := (List.range lastSignal).map fun n => signalName .standard (n + 1)
    Deed.write "kill" (String.join (("0" :: names).map (· ++ "\n")))
  | [], .extended => Deed.write "kill" signalTable
  | text :: _, .standard =>
    match text.toNat? with
    | none => Deed.stop ("kill: Illegal number: " ++ text)
    | some n =>
      if 0 < below n && below n ≤ lastSignal then Deed.write "kill" (signalName .standard (below n) ++ "\n")
      else Deed.stop ("kill: invalid signal number or exit status: " ++ text)
  | texts, .extended =>
    for text in texts do
      match text.toNat?, signal? .extended text with
      | some n, _ =>
        if 0 < below n && below n ≤ lastSignal then Deed.write "kill" (signalName .extended (below n) ++ "\n")
        else remark "kill" (text ++ ": invalid signal specification") 1
      | none, some signal => Deed.write "kill" (toString signal.number ++ "\n")
      | none, none => remark "kill" (text ++ ": invalid signal specification") 1

/-- Sends the signal that a text names. -/
def sendNamed (text standardFault : String) (targets : List String) : Deed Unit := do
  match target? (← get).dialect text with
  | none => fault "kill" standardFault (text ++ ": invalid signal specification")
  | some signal => if targets.isEmpty then killUsage else sendAll signal targets

/-- Sends a signal, that for an orderly end unless the arguments name another one. -/
def kill : Builtin := fun arguments => do
  let isExtended := (← get).isExtended
  match arguments with
  | [] => killUsage
  | option :: rest =>
    let letters := option.toList.drop 1
    let name := String.ofList letters
    if !option.startsWith "-" || letters.isEmpty then sendAll (some .term) arguments
    else if option = "--" then if rest.isEmpty then killUsage else sendAll (some .term) rest
    else if option = "-l" || (isExtended && option = "-L") then listSignals rest
    else if option = "-s" || (isExtended && option = "-n") then
      match rest with
      | [] =>
        fault "kill" ("No arg for " ++ option ++ " option") (option ++ ": option requires an argument")
      | signal :: targets => sendNamed signal ("invalid signal number or name: " ++ signal) (withoutMark isExtended targets)
    else if letters.head? == some 's' && (signal? .standard name).isNone && !isExtended then
      let signal := String.ofList (letters.drop 1)
      sendNamed signal ("invalid signal number or name: " ++ signal) rest
    else sendNamed name ("Illegal option -" ++ String.ofList (letters.take 1)) (withoutMark isExtended rest)
where
  /-- The targets after the mark that ends options. -/
  withoutMark (isExtended : Bool) (targets : List String) : List String :=
    if isExtended && targets.head? = some "--" then targets.drop 1 else targets

/-! ## Traps -/

/-- The conditions of the extended dialect that are no signals. -/
def furtherConditions : List String := ["ERR", "DEBUG", "RETURN"]

/-- The name of the condition that a text names. -/
def condition? (dialect : Dialect) (text : String) : Option (String × Option Signal) :=
  if text = "0" || text.toUpper = Deed.endTrap then some (Deed.endTrap, none)
  else if dialect = .extended && furtherConditions.contains text.toUpper then some (text.toUpper, none)
  else (signal? dialect text).map fun signal => (signal.shortName, some signal)

/-- Says what a signal does from now on. -/
def regard (signal : Signal) (regard : Option Regard) : Deed Unit := fun _ s k =>
  .regard signal regard (k ((), s))

/-- Sets traps, each for the same action. -/
def setTraps (action : Option String) (conditions : List String) : Deed Unit := do
  match conditions with
  | [] => return
  | condition :: rest =>
    match condition? (← get).dialect condition with
    | none =>
      match (← get).dialect with
      | .standard =>
        Act.complain ("trap: " ++ condition ++ ": bad trap")
        Deed.done 1
      | .extended =>
        remark "trap" (condition ++ ": invalid signal specification") 1
        setTraps action rest
    | some (name, signal) =>
      modify fun s => { s with traps := (action.map (name, ·)).toList ++ s.traps.filter (·.1 ≠ name) }
      match signal with
      | some signal =>
        regard signal (action.map fun action => if action.isEmpty then Regard.ignored else .noted)
      | none => pure ()
      setTraps action rest

/-- The traps in the order of their signals. -/
def orderedTraps (s : Shell) : List (String × String) :=
  let names := Deed.endTrap :: Signal.all.map Signal.shortName ++ ["DEBUG", "ERR", "RETURN"]
  names.filterMap fun name => (s.traps.lookup name).map (name, ·)

/-- The command that sets a trap. -/
def shownTrap (s : Shell) (name action : String) : String :=
  let isSignal := (signal? .standard name).isSome
  match s.dialect with
  | .standard => "trap -- " ++ Quoted.withDoubleQuotes action ++ " " ++ name ++ "\n"
  | .extended => "trap -- " ++ Quoted.reusable action ++ " " ++ (if isSignal then "SIG" else "") ++ name ++ "\n"

/-- Sets what is run on signals and at the end, and shows it. -/
def trap : Builtin := fun arguments => do
  let s ← get
  let (options, arguments) ← takeOptions "trap" (flags (if s.isExtended then "lp" else "")) arguments
  Deed.done 0
  if has 'l' options then Deed.write "trap" signalTable
  else if has 'p' options && !arguments.isEmpty then
    for argument in arguments do
      match condition? s.dialect argument with
      | some (name, _) =>
        match s.traps.lookup name with
        | some action => Act.say Task.standardOutput (shownTrap s name action)
        | none => pure ()
      | none => remark "trap" (argument ++ ": invalid signal specification") 1
  else
    let isReset (text : String) : Bool :=
      text.toNat?.any (· ≤ lastSignal)
    match arguments with
    | [] => Deed.write "trap" (String.join ((orderedTraps s).map fun (name, action) => shownTrap s name action))
    | [condition] =>
      if s.isExtended && (condition? .extended condition).isNone then
        sayUsage "trap"
        Deed.done 2
      else setTraps none [condition]
    | action :: conditions =>
      if action = "-" then setTraps none conditions
      else if isReset action then setTraps none (action :: conditions)
      else setTraps (some action) conditions

/-! ## When a signal comes -/

/-- Takes the first of the signals that have come. -/
def takeNoted : Deed (Option Signal) := fun _ s k =>
  .takeNoted fun signal => k (signal, s)

/-- Runs the trap for a condition; the status stays what it is, unless the trap leaves what runs. -/
def runTrap (name : String) : Deed Unit := do
  let s ← get
  match s.traps.lookup name with
  | none => return
  | some action =>
    Deed.inside (Deed.runText { text := action, firstLine := s.line })
    modify fun t => { t with
      status := if t.leap.isSome then t.status else s.status
      line := s.line }

/-- Runs the traps for the signals that have come. The fuel is their number at most. -/
def onSignals (fuel : Nat) : Deed Unit := do
  match fuel, (← get).traps with
  | 0, _ | _, [] => return
  | fuel + 1, _ =>
    match ← takeNoted with
    | none => return
    | some signal =>
      runTrap signal.shortName
      onSignals fuel

/-- What follows a wait that a signal has ended. -/
def interrupted : Deed Unit := do
  match ← takeNoted with
  | none => return
  | some signal =>
    Deed.done (128 + signal.number)
    runTrap signal.shortName

end BatchJob.Machine.Shell.Builtin
