import BatchJob.Channel
import BatchJob.Toml.Document

/-!
# Settings

The settings of a job and how they are read from the table of a document. Faults are reported in the order
of the document, the first one only. A section may also be an array, which gives its fields in order
without their names.
-/

namespace BatchJob

/-- The size of a relay's buffer unless the settings say otherwise. -/
def Config.defaultBufferSize : Nat := 4096

/-- The settings of a job. -/
structure Config where
  /-- The paths allocated to dataset names, before expansion. -/
  datasets : List (String × String) := []
  /-- The path of the operator console, before expansion. -/
  consolePath : Option String := none
  stopPolicy : StopPolicy := .signalOnly
  bufferSize : Nat := Config.defaultBufferSize
  deriving DecidableEq, Repr

namespace Config

/-- Why a document holds no settings. -/
inductive Fault
  /-- The text is not a document, or its lines contradict each other. -/
  | malformed
  /-- A value is not of the kind that its setting needs. -/
  | wrongKind
  /-- There is no setting of this name among those known here. -/
  | unknownField (name : String) (known : List String)
  /-- There is no choice of this name among those known here. -/
  | unknownChoice (name : String) (known : List String)
  deriving DecidableEq, Repr

namespace Fault

/-- A name between backquotes. -/
def quoted (name : String) : String := "`" ++ name ++ "`"

/-- The names that were expected, as a message lists them. -/
def expected : List String → String
  | [a] => "expected " ++ quoted a
  | [a, b] => "expected " ++ quoted a ++ " or " ++ quoted b
  | names => "expected one of " ++ ", ".intercalate (names.map quoted)

/-- What a fault says about a name that is not known. -/
def detail? : Fault → Option String
  | .unknownField name known => some ("unknown field " ++ quoted name ++ ", " ++ expected known)
  | .unknownChoice name known => some ("unknown variant " ++ quoted name ++ ", " ++ expected known)
  | .malformed | .wrongKind => none

/-- The text of a fault. -/
def message : Fault → String
  | .malformed => "invalid document"
  | .wrongKind => "invalid type"
  | fault => fault.detail?.getD ""

end Fault

open Toml (Value Entries)

/-- The key under which a date-time holds its text where a table is needed. -/
def dateTimeKey : String := "$__toml_private_datetime"

/-- A value as a table: a table itself, or a date-time with its text under a key of its own. -/
def entries? : Value → Option Entries
  | .table _ entries => some entries
  | .dateTime d => some [(dateTimeKey, .string d.render)]
  | _ => none

/-- A value as a sequence: an array, or the tables under one name. -/
def items? : Value → Option (List Value)
  | .array items => some items
  | .tables items => some (items.map (.table .header ·))
  | _ => none

/-- A text. -/
def text : Value → Except Fault String
  | .string text => .ok text
  | _ => .error .wrongKind

/-- A size that fits in 64 bits. -/
def size : Value → Except Fault Nat
  | .integer (some n) => if 0 ≤ n && n.toNat < UInt64.size then .ok n.toNat else .error .wrongKind
  | _ => .error .wrongKind

/-- The policy of a given name. -/
def policyNamed (name : String) : Except Fault StopPolicy :=
  match StopPolicy.ofName? name with
  | some policy => .ok policy
  | none => .error (.unknownChoice name (StopPolicy.all.map StopPolicy.name))

/-- A policy: its name, or a table with nothing under its name. -/
def policy : Value → Except Fault StopPolicy
  | .string name => policyNamed name
  | .table _ [(name, payload)] => do
    let policy ← policyNamed name
    match payload with
    | .table _ [] | .array [] => return policy
    | _ => .error .wrongKind
  | _ => .error .wrongKind

/-- Reads a section whose fields are known by name and by position, each with the function that sets it. -/
def readSection {σ : Type} (fields : List (String × (σ → Value → Except Fault σ))) (start : σ)
    (value : Value) : Except Fault σ :=
  match entries? value, items? value with
  | some entries, _ => entries.foldlM (fun s (key, value) =>
      match fields.lookup key with
      | some set => set s value
      | none => .error (.unknownField key (fields.map (·.1)))) start
  | none, some items => (fields.zip items).foldlM (fun s (field, value) => field.2 s value) start
  | none, none => .error .wrongKind

/-- The allocations of dataset names. -/
def allocations (value : Value) : Except Fault (List (String × String)) :=
  match entries? value with
  | some entries => entries.mapM fun (name, value) => return (name, ← text value)
  | none => .error .wrongKind

/-- The fields of the console section. -/
def consoleFields : List (String × (Config → Value → Except Fault Config)) :=
  [("path", fun c value => return { c with consolePath := some (← text value) })]

/-- The fields of the relay section. -/
def relayFields : List (String × (Config → Value → Except Fault Config)) :=
  [("stop_policy", fun c value => return { c with stopPolicy := ← policy value }),
   ("buffer_size", fun c value => return { c with bufferSize := ← size value })]

/-- The sections of a document. -/
def sections : List (String × (Config → Value → Except Fault Config)) :=
  [("datasets", fun c value => return { c with datasets := ← allocations value }),
   ("console", readSection consoleFields),
   ("relay", readSection relayFields)]

/-- The settings in a text. -/
def ofText (content : List Char) : Except Fault Config :=
  match Toml.Document.read? content with
  | some entries => readSection sections {} (.table .header entries)
  | none => .error .malformed

end Config

end BatchJob
