import BatchJob.Config.Expansion
import BatchJob.Config.Fields
import BatchJob.FileSystem.Basic
import BatchJob.Text.Utf8

/-!
# Finding settings and allocations

Settings come from a file: one that is named outright, else the one that an environment variable names,
else there are only the defaults. A dataset name is allocated by the environment variable `DD_<NAME>`,
which counts before the settings; a name that neither allocates has no path.
-/

namespace BatchJob

/-- Why there are no settings, or no path. -/
inductive ConfigError
  /-- The file could not be read as text. -/
  | read (path : String) (cause : IoError)
  /-- The file's text does not hold settings. -/
  | parse (path : String) (fault : Config.Fault)
  /-- A path names a variable that is not set. -/
  | expand (raw variableName : String)
  /-- The relay cannot work without a buffer. -/
  | invalidBufferSize
  deriving DecidableEq, Repr

namespace ConfigError

/-- What is said of a variable that is not set. -/
def notFound : String := "environment variable not found"

/-- What is said of a look-up that failed. -/
def lookupFailed (variableName : String) : String :=
  "error looking key '" ++ variableName ++ "' up: " ++ notFound

/-- The text of an error. -/
def message : ConfigError → String
  | .read path cause => "Error reading config file " ++ path ++ ": " ++ cause.message
  | .parse path fault => "Error parsing config file " ++ path ++ ": " ++ fault.message
  | .expand raw variableName => "Error expanding '" ++ raw ++ "': " ++ lookupFailed variableName
  | .invalidBufferSize => "relay.buffer_size must be greater than zero"

/-- The texts of an error and of its causes, the outermost first. -/
def chain (e : ConfigError) : List String :=
  e.message ::
    match e with
    | .read _ cause => [cause.message]
    | .parse _ fault => [fault.message]
    | .expand _ variableName => [lookupFailed variableName, notFound]
    | .invalidBufferSize => []

end ConfigError

namespace Config

/-- The environment variable that names the file of settings. -/
def fileVariable : String := "RKTBATCH_CONFIG"

/-- What stands before a dataset name in the variable that allocates it. -/
def allocationStem : String := "DD_"

/-- The settings in a file. -/
def load (fs : FileSystem) (path : String) : Except ConfigError Config :=
  match fs.contentAt path with
  | .error cause => .error (.read path cause)
  | .ok bytes =>
    match Text.decode? bytes with
    | none => .error (.read path .invalidUtf8)
    | some content =>
      match ofText content with
      | .error fault => .error (.parse path fault)
      | .ok config => if config.bufferSize = 0 then .error .invalidBufferSize else .ok config

/-- The settings in the file named outright, else in the file that the environment names, else the
defaults. -/
def discover (fs : FileSystem) (vars : Variables) (explicit : Option String) :
    Except ConfigError Config :=
  match explicit, vars.get? fileVariable with
  | some path, _ => load fs path
  | none, some path => if path.isEmpty then .ok {} else load fs path
  | none, none => .ok {}

/-- The path that a text stands for. -/
def expand (vars : Variables) (raw : String) : Except ConfigError String :=
  (Expansion.expand vars raw).mapError (.expand raw)

/-- A name in upper case, as far as its letters are ASCII letters. -/
def upperName (name : String) : String :=
  String.ofList (name.toList.map Text.upperAscii)

/-- The text allocated to a dataset name, before expansion: by `allocated`, unless that is empty, else by
the settings under the name itself, else by the settings under the name in upper case. -/
def allocation? (config : Config) (allocated : String → Option String) (name : String) : Option String :=
  match allocated (allocationStem ++ upperName name) with
  | some raw => if raw.isEmpty then fromSettings else some raw
  | none => fromSettings
where
  /-- The text that the settings allocate. -/
  fromSettings : Option String :=
    match config.datasets.lookup name with
    | some raw => some raw
    | none => config.datasets.lookup (upperName name)

/-- The path of a dataset name whose allocations `allocated` gives before the settings do. -/
def datasetPathWith (config : Config) (vars : Variables) (allocated : String → Option String)
    (name : String) : Except ConfigError (Option String) :=
  match config.allocation? allocated name with
  | some raw => return some (← expand vars raw)
  | none => return none

/-- The path of a dataset name. -/
def datasetPath (config : Config) (vars : Variables) (name : String) :
    Except ConfigError (Option String) :=
  config.datasetPathWith vars vars.get? name

/-- The path of the operator console that the settings name. -/
def console (config : Config) (vars : Variables) : Except ConfigError (Option String) :=
  match config.consolePath with
  | some raw => return some (← expand vars raw)
  | none => return none

end Config

end BatchJob
