import BatchJob.Config.Basic
import BatchJob.RunOptions

/-!
# The command line

The supervisor's own options come first. The first argument that is none of them starts the program, and
everything from there on belongs to the program as it stands; two hyphens alone end the options as well
and are dropped. An option is given at most once.

The program leaves the reading of arguments to a library, of which it says only which options there are, which values
they take, and that everything from the program on is one list. What is assumed of that library is the following, and
it is assumed in `meaning` and `scan` alone:

* Long options go by their whole names. An argument that starts with hyphens but is no known option is a word, like one
  without hyphens or one hyphen alone, and so it starts the program.
* Letters may stand together behind one hyphen. If all of them are known the first one counts, otherwise they are a
  word.
* A value is attached with an equals sign or is the next argument, which must not be an option or two hyphens. What
  follows an attached equals sign is the value, even if it is empty; an empty path is then refused like any other value
  that is not allowed.
* A value that is attached to an option which takes none is an error, and comes before what is wrong with a value
  directly in front of it.
* An option that is given again is an error, whether its value is allowed or not.
* Arguments are read from left to right, and the first error ends the reading. The options for the help text and the
  version end it at once, too.
-/

namespace BatchJob

/-- How much the supervisor logs. -/
inductive Verbosity
  | trace
  | debug
  | info
  | warn
  | error
  deriving DecidableEq, Repr

namespace Verbosity

/-- The levels from the most verbose on. -/
def all : List Verbosity := [trace, debug, info, warn, error]

/-- The name of a level on the command line. -/
def name : Verbosity → String
  | trace => "trace"
  | debug => "debug"
  | info => "info"
  | warn => "warn"
  | error => "error"

/-- The level of a given name. -/
def ofName? (text : String) : Option Verbosity :=
  all.find? fun level => level.name == text

end Verbosity

/-- What a command line asks for. -/
structure CommandLine where
  disableConsole : Bool
  verbosity : Verbosity
  configPath : Option String
  consolePath : Option String
  drainOnExit : Bool
  program : List String
  deriving DecidableEq, Repr

/-- Why a command line does not lead to a job. -/
inductive UsageError
  /-- A value is missing, empty or not one of those allowed. -/
  | invalidValue
  /-- An option is given twice. -/
  | repeated
  /-- A value is attached to an option that takes none. -/
  | unexpectedValue
  /-- The help text is asked for. -/
  | help
  /-- The version is asked for. -/
  | version
  deriving DecidableEq, Repr

/-- The exit code that goes with an error: asking for a text is none. -/
def UsageError.exitCode : UsageError → Nat
  | .help | .version => 0
  | _ => 2

namespace CommandLine

/-- The options given so far. -/
structure Options where
  disableConsole : Option Unit := none
  verbosity : Option Verbosity := none
  configPath : Option String := none
  consolePath : Option String := none
  drainOnExit : Option Unit := none
  deriving DecidableEq, Repr

/-- The options that take no value. -/
inductive Switch
  | disableConsole
  | drainOnExit
  | help
  | version
  deriving DecidableEq, Repr

/-- The options that take a value. -/
inductive Setting
  | verbosity
  | config
  | console
  deriving DecidableEq, Repr

/-- The long names of the options without a value. -/
def switches : List (String × Switch) :=
  [("disable-console-commands", .disableConsole), ("drain-on-exit", .drainOnExit), ("help", .help),
    ("version", .version)]

/-- The long names of the options with a value. -/
def settings : List (String × Setting) :=
  [("log-level", .verbosity), ("config", .config), ("console", .console)]

/-- The short names, all of which are of options without a value. -/
def letters : List (Char × Switch) := [('h', .help), ('V', .version)]

/-- What an argument means where options may stand. -/
inductive Meaning
  /-- Two hyphens: the options end here. -/
  | endOfOptions
  /-- An option without a value; the value attached to it, if any, is one too many. -/
  | switch (option : Switch) (attached : Option String)
  /-- An option with a value, which may be attached to it. -/
  | setting (option : Setting) (attached : Option String)
  /-- Anything else. -/
  | word
  deriving DecidableEq, Repr

/-- What a long option means, given what follows its hyphens. -/
def ofLong (text : List Char) : Meaning :=
  let (name, attached) := Text.splitAtFirst (· == '=') text
  let name := String.ofList name
  let attached := attached.map String.ofList
  match switches.lookup name, settings.lookup name with
  | some option, _ => .switch option attached
  | none, some option => .setting option attached
  | none, none => .word

/-- What short options in one argument mean, given their letters: the first one counts, if all are
known. -/
def ofLetters (text : List Char) : Meaning :=
  match text.mapM (letters.lookup ·) with
  | some (option :: _) => .switch option none
  | _ => .word

/-- What an argument means where options may stand. -/
def meaning (arg : String) : Meaning :=
  match arg.toList with
  | ['-', '-'] => .endOfOptions
  | '-' :: '-' :: text => ofLong text
  | '-' :: text => ofLetters text
  | _ => .word

/-- Notes an option, which must not have been noted before. -/
def note {α : Type} (before : Option α) (value : α) : Except UsageError (Option α) :=
  if before.isSome then .error .repeated else .ok (some value)

/-- Notes an option without a value. -/
def Options.turnOn (o : Options) : Switch → Except UsageError Options
  | .disableConsole => return { o with disableConsole := ← note o.disableConsole () }
  | .drainOnExit => return { o with drainOnExit := ← note o.drainOnExit () }
  | .help => .error .help
  | .version => .error .version

/-- A path given on the command line, which must not be empty. -/
def pathOf (text : String) : Except UsageError String :=
  if text.isEmpty then .error .invalidValue else .ok text

/-- A level given on the command line. -/
def verbosityOf (text : String) : Except UsageError Verbosity :=
  match Verbosity.ofName? text with
  | some level => .ok level
  | none => .error .invalidValue

/-- Whether an option with a value was noted. -/
def Options.has (o : Options) : Setting → Bool
  | .verbosity => o.verbosity.isSome
  | .config => o.configPath.isSome
  | .console => o.consolePath.isSome

/-- Notes an option with its value. -/
def Options.assign (o : Options) (option : Setting) (text : String) : Except UsageError Options :=
  if o.has option then .error .repeated
  else
    match option with
    | .verbosity => return { o with verbosity := some (← verbosityOf text) }
    | .config => return { o with configPath := some (← pathOf text) }
    | .console => return { o with consolePath := some (← pathOf text) }

/-- Whether an argument list starts with a value attached to an option that takes none. Where a value and
such an argument after it are both at fault, the latter is reported. -/
def startsWithUnexpectedValue : List String → Bool
  | [] => false
  | arg :: _ =>
    match meaning arg with
    | .switch _ (some _) => true
    | _ => false

/-- Reads options, after those noted, and the program after them. -/
def scan (o : Options) : List String → Except UsageError (Options × List String)
  | [] => .ok (o, [])
  | arg :: rest =>
    match meaning arg with
    | .endOfOptions => .ok (o, rest)
    | .word => .ok (o, arg :: rest)
    | .switch _ (some _) => .error .unexpectedValue
    | .switch option none =>
      match o.turnOn option with
      | .ok o => scan o rest
      | .error e => .error e
    | .setting option (some value) =>
      match o.assign option value with
      | .ok o => scan o rest
      | .error e => .error e
    | .setting option none =>
      match rest with
      | [] => .error .invalidValue
      | value :: rest' =>
        match meaning value with
        | .word =>
          if startsWithUnexpectedValue rest' then .error .unexpectedValue
          else
            match o.assign option value with
            | .ok o => scan o rest'
            | .error e => .error e
        | .switch _ (some _) => .error .unexpectedValue
        | _ => .error .invalidValue

/-- The command line with the options noted and the program given; what is not noted has its default. -/
def ofOptions (o : Options) (program : List String) : CommandLine where
  disableConsole := o.disableConsole.isSome
  verbosity := o.verbosity.getD .info
  configPath := o.configPath
  consolePath := o.consolePath
  drainOnExit := o.drainOnExit.isSome
  program := program

/-- What the arguments after the supervisor's own name ask for. -/
def parse (args : List String) : Except UsageError CommandLine :=
  (scan {} args).map fun (o, program) => ofOptions o program

/-- How the job is to be run, the command line counting before the settings. -/
def runOptions (line : CommandLine) (config : Config) (vars : Variables) :
    Except ConfigError RunOptions := do
  let consolePath ←
    match line.consolePath with
    | some path => pure (some path)
    | none => config.console vars
  return {
    program := line.program
    disableConsole := line.disableConsole
    consolePath
    stopPolicy := if line.drainOnExit then .drainToEof else config.stopPolicy
    bufferSize := config.bufferSize }

end CommandLine

end BatchJob
