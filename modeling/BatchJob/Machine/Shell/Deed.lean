import BatchJob.Machine.Act
import BatchJob.Machine.Shell.Basic
import BatchJob.Machine.Shell.Reader.Command

/-!
# Deeds

A part of what a shell does: an act that knows the shell and may change it. A deed also knows how scripts are run,
and what follows if a command is refused: the end of the shell, unless something around the deed goes on after it.
-/

namespace BatchJob.Machine.Shell

/-- What surrounds a deed. -/
structure Surroundings where
  /-- How a script is run, given what follows if it is left off. -/
  run : (Shell → Task) → Script → StateT Shell Act Unit
  /-- What follows if the present script is left off. -/
  refused : Shell → Task
  /-- What follows if the present command of the shell itself cannot be carried out. -/
  stopped : Shell → Task

/-- A part of what a shell does, on the way to a value. -/
abbrev Deed :=
  ReaderT Surroundings (StateT Shell Act)

namespace Deed

/-- Runs a script. -/
def run (script : Script) : Deed Unit := fun around =>
  around.run around.refused script

/-- A shell after something that was left off in the middle. -/
def recovered (outer s : Shell) : Shell :=
  { s with
    enclosing := outer.enclosing, aside := outer.aside, loops := outer.loops, frames := outer.frames, isLast := outer.isLast
    isTested := outer.isTested, sources := outer.sources, leap := none }

/-- Does something; where that is left off, what follows it follows all the same. -/
def guarded (deed : Deed Unit) : Deed Unit := fun around s k =>
  let after (t : Shell) : Task := k ((), recovered s t)
  deed { around with refused := after, stopped := after } s k

/-- Does something and cleans up after it, also where it is left off. -/
def thenAlways (deed cleanUp : Deed Unit) : Deed Unit := fun around s k =>
  let clean (next : Shell → Task) (t : Shell) : Task := cleanUp around t fun (_, t) => next t
  deed { around with refused := clean around.refused, stopped := clean around.stopped } s fun (_, t) =>
    clean (fun t => k ((), t)) t

/-- Carries out a command of the shell itself. In the standard dialect a special one that fails ends the script. -/
def asBuiltin (isSpecial : Bool) (deed : Deed Unit) : Deed Unit := fun around s k =>
  let after (t : Shell) : Task := k ((), recovered s t)
  let ended (result : Unit × Shell) : Task := k ((), { result.2 with enclosing := s.enclosing })
  let inner := { s with enclosing := "" }
  match s.dialect with
  | .extended => deed { around with stopped := after } s k
  | .standard =>
    if isSpecial then deed { around with stopped := around.refused } inner ended
    else deed { around with refused := after, stopped := after } inner ended

/-- Does something whose commands are said to be inside of something else. -/
def enclosed {α : Type} (enclosing : String) (deed : Deed α) : Deed α := do
  let outer := (← get).enclosing
  modify fun s => { s with enclosing }
  let a ← deed
  modify fun s => { s with enclosing := outer }
  return a

/-- Leaves off the present script. -/
def abandon {α : Type} : Deed α := fun around s _ =>
  around.refused s

/-- Notes the status of a command. -/
def done (status : Nat) : Deed Unit :=
  modify (·.ended status)

/-- What is said of a command, with the place where it stands. -/
def located (s : Shell) (text : String) : String :=
  match s.dialect with
  | .standard => s.name ++ ": " ++ toString s.line ++ ": " ++ s.enclosing ++ text
  | .extended =>
    let name :=
      if !s.enclosing.isEmpty then s.enclosing
      else if s.isOn "command" && !s.frames.isEmpty then "environment"
      else s.name
    name ++ ": line " ++ toString s.line ++ ": " ++ text

/-- Says what is wrong with a command. -/
def complain (text : String) : Deed Unit := do
  Act.complain (located (← get) text)

/-- Says why the present command of the shell itself cannot be carried out, and leaves it off. -/
def stop {α : Type} (text : String) (status : Nat := 2) : Deed α := do
  complain text
  done status
  fun around s _ => around.stopped s

/-- Says what is wrong with a script, and leaves it off. -/
def refuse {α : Type} (text : String) (status : Nat := 2) : Deed α := do
  complain text
  done status
  abandon

/-- Runs a deed under a shell whose present command is not its last one. -/
def inside {α : Type} (deed : Deed α) : Deed α := do
  let isLast := (← get).isLast
  modify fun s => { s with isLast := false }
  let a ← deed
  modify fun s => { s with isLast }
  return a

/-! ## Texts as scripts -/

/-- A text that is run as a script. -/
structure Source where
  text : String
  /-- What stands before what is said of it if it is no script. -/
  label : String := ""
  /-- The number of its first line. -/
  firstLine : Nat := 1
  /-- Whether it has been read from a file. -/
  isFile : Bool := false

/-- What is in front of the line numbers in what is said of a text that is no script. -/
def syntaxLabel (s : Shell) : String :=
  if s.isOn "command" && s.enclosing.isEmpty then "-c: " else ""

/-- Says what is wrong with a text that is no script. -/
def complainOfSyntax (source : Source) (fault : Script.SyntaxError) : Deed Unit := do
  let s ← get
  match s.dialect with
  | .standard =>
    modify fun s => { s with line := fault.line }
    complain ("Syntax error: " ++ fault.fault.message)
  | .extended =>
    let name := if s.enclosing.isEmpty then s.name else s.enclosing
    let front := name ++ ": " ++ (if source.label.isEmpty then syntaxLabel s else source.label) ++ "line "
    let place := front ++ toString fault.line ++ ": "
    let tick := "\x60"
    match fault.fault with
    | .unexpected found _ =>
      if found = "end of file" then
        let line := fault.line + (if source.text.endsWith "\n" then 0 else 1)
        Act.complain (front ++ toString line ++ ": syntax error: unexpected end of file")
      else
        Act.complain (place ++ "syntax error near unexpected token " ++ tick ++ found ++ "'")
        Act.complain (place ++ tick ++ ((source.text.splitOn "\n")[fault.line - 1]?).getD "" ++ "'")
    | .badVariable name => Act.complain (place ++ tick ++ name ++ "': not a valid identifier")
    | .badFunctionName name => Act.complain (place ++ tick ++ name ++ "': not a valid identifier")
    | .badDescriptor => Act.complain (place ++ "bad file descriptor")
    | .unclosed opening =>
      let closing := if opening = "\x7b" then "\x7d" else if opening.startsWith "(" then ")" else opening
      Act.complain (place ++ "unexpected EOF while looking for matching " ++ tick ++ closing ++ "'")

/-- Says that the end of a script has ended a document in it. -/
def warnOfEnd (source : Source) (document : Nat × String) : Deed Unit := do
  let lines := source.text.toList.count '\n' + if source.text.endsWith "\n" then 0 else 1
  Act.complain ((← get).name ++ ": line " ++ toString lines ++ ": warning: here-document at line " ++
    toString document.1 ++ " delimited by end-of-file (wanted \x60" ++ document.2 ++ "')")

/-- The lines of a text from a number on, the first one being number one, up to another number. -/
def linesBetween (text : String) (first last : Nat) : String :=
  let lines := text.splitOn "\n"
  let chosen := (lines.take (last - 1)).drop (first - 1)
  "\n".intercalate chosen ++ if last ≤ lines.length && !chosen.isEmpty then "\n" else ""

/-- Shows the lines of a script that have been read, if a switch says so: the standard dialect those of files. -/
def showLines (source : Source) (first last : Nat) : Deed Unit := do
  let s ← get
  if s.isOn "verbose" && (source.isFile || s.isExtended) then
    let text := if s.isExtended && !source.text.endsWith "\n" then source.text ++ "\n" else source.text
    let start := source.firstLine - 1
    Act.say Task.standardError (linesBetween text (first - start) (last - start))

/-- The aliases that are replaced in scripts. -/
def knownAliases (s : Shell) : List (String × String) :=
  if s.isExtended && !s.isOn "expand_aliases" then [] else s.aliases

/-- Runs the commands that are read from a cursor on, line by line. In the extended dialect, a line that is left off
is followed by the next one. The fuel is the number of lines at most. -/
def runFrom (source : Source) (fuel : Nat) (cursor : Script.Cursor) : Deed Unit := do
  match fuel with
  | 0 => return
  | fuel + 1 =>
    let s ← get
    let first := cursor.line
    match Script.readLine { cursor with aliases := knownAliases s, hasGroups := s.isOn "extglob" } with
    | .error fault =>
      showLines source first (fault.line + 1)
      complainOfSyntax source fault
      done 2
      if !s.isExtended then abandon
    | .ok none => showLines source first (cursor.lastLine + 1)
    | .ok (some (script, cursor)) =>
      if s.isExtended then cursor.openDocuments.forM (warnOfEnd source)
      let cursor := { cursor with openDocuments := [] }
      showLines source first (if cursor.text.isEmpty then cursor.lastLine + 1 else cursor.line)
      let line : Deed Unit := if s.isOn "noexec" then pure () else run script
      let line := if s.isExtended then guarded line else line
      let isAtEnd := (Script.Reading.skipBlanks cursor.text).isEmpty
      if isAtEnd then
        line
        if !cursor.text.isEmpty then showLines source cursor.line (cursor.lastLine + 1)
      else
        inside line
        if (← get).leap.isNone then runFrom source fuel cursor

/-- Runs the script in a text. -/
def runText (source : Source) : Deed Unit := do
  let s ← get
  let cursor := Script.Cursor.start s.dialect (knownAliases s) source.firstLine source.text.toList
  runFrom source (source.text.length + 1) cursor

/-- Runs the script in a text as the whole of a command, which succeeds if there are no commands in the text. -/
def runWhole (source : Source) : Deed Unit := do
  match Script.readLine (Script.Cursor.start (← get).dialect [] source.firstLine source.text.toList) with
  | .ok none =>
    showLines source source.firstLine (source.firstLine + source.text.length)
    done 0
  | _ => inside (runText source)

/-! ## The end -/

/-- The name under which a trap for the end of the shell is kept. -/
def endTrap : String := "EXIT"

/-- Ends a shell after its trap for the end. -/
def leaveTask (run : (Shell → Task) → Script → StateT Shell Act Unit) (s : Shell) : Task :=
  let exit (s : Shell) : Task := .exit (s.status % 256)
  match s.traps.lookup endTrap with
  | none => exit s
  | some action =>
    let inner := { s with
      traps := s.traps.filter (·.1 ≠ endTrap), isLast := false, leap := none, isTested := false, loops := 0 }
    let source : Source := { text := action, label := if s.isExtended then "exit trap: " else "", firstLine := s.line }
    runText source { run, refused := exit, stopped := exit } inner
      fun _ => exit s

/-- Ends the shell. -/
def leave {α : Type} : Deed α := fun around s _ =>
  leaveTask around.run s

/-- A deed as the whole of a process. -/
def toTask (run : (Shell → Task) → Script → StateT Shell Act Unit) (deed : Deed Unit) (s : Shell) : Task :=
  (do deed; leave : Deed Unit) { run, refused := leaveTask run, stopped := leaveTask run } s fun _ => .exit 0

/-- The shell as a process of its own starts with it: no command follows, and only the signals that are ignored
have traps. -/
def forked (s : Shell) : Shell :=
  { s with
    traps := s.traps.filter (·.2.isEmpty), isLast := true, isInner := true, level := s.level + 1, loops := 0, jobs := [] }

/-- Starts a process that does something with what the shell knows. -/
def fork (child : Deed Unit) : Deed Pid := fun around s k =>
  .fork (toTask around.run child (forked s)) fun pid => k (pid, s)

/-- Writes a text as the whole of a command. -/
def write (command text : String) : Deed Unit := do
  match ← Act.write Task.standardOutput text with
  | none => done 0
  | some e =>
    complain (match (← get).dialect with
      | .standard => command ++ ": " ++ command ++ ": I/O error"
      | .extended => command ++ ": write error: " ++ e.libraryPhrase)
    done 1

end Deed

end BatchJob.Machine.Shell
