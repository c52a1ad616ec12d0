import BatchJob.Toml.DateTime

/-!
# Values of a document

A document is a table, whose entries keep the order in which they were written. A table remembers how it
came to be, since that decides whether later lines may add to it.
-/

namespace BatchJob.Toml

/-- How a table came to be. -/
inductive TableKind
  /-- A header named a table below it. -/
  | implied
  /-- A dotted key named a value below it. -/
  | dotted
  /-- A header named it. -/
  | header
  /-- It was written in braces. -/
  | braced
  deriving DecidableEq, Repr

/-- A value of a document. -/
inductive Value
  | string (text : String)
  /-- The form of an integer; it may have a form that stands for no number, which shows where a number is
  needed. -/
  | integer (value : Option Int)
  | float
  | boolean (value : Bool)
  | dateTime (value : DateTime)
  | array (items : List Value)
  | table (kind : TableKind) (entries : List (String × Value))
  /-- The tables that headers in double brackets have added. -/
  | tables (items : List (List (String × Value)))
  deriving Inhabited

/-- The entries of a table in the order in which they were written. -/
abbrev Entries := List (String × Value)

namespace Entries

/-- Replaces the value of a key that is there. -/
def replace (entries : Entries) (key : String) (value : Value) : Entries :=
  entries.map fun (k, v) => if k = key then (k, value) else (k, v)

/-- Adds a value at the end, under a key that is not there. -/
def add? (entries : Entries) (key : String) (value : Value) : Option Entries :=
  if (entries.lookup key).isSome then none else some (entries ++ [(key, value)])

/-- Adds a value under a dotted key. The tables on the way are made if they are absent; the last of them must
itself come from a dotted key, and those before it from one or from being implied, or they are the last of the
tables under one name. -/
def addDotted? (entries : Entries) (path : List String) (key : String) (value : Value) : Option Entries :=
  match path with
  | [] => entries.add? key value
  | name :: path =>
    match entries.lookup name with
    | none => do
      let below ← addDotted? [] path key value
      return entries ++ [(name, .table .dotted below)]
    | some (.table .dotted below) => do
      let below ← addDotted? below path key value
      return entries.replace name (.table .dotted below)
    | some (.table .implied below) =>
      -- A table that a header implies may be passed through but not added to.
      if path.isEmpty then none
      else do
        let below ← addDotted? below path key value
        return entries.replace name (.table .implied below)
    | some (.tables items) =>
      if path.isEmpty then none
      else do
        let below ← addDotted? (← items.getLast?) path key value
        return entries.replace name (.tables (items.dropLast ++ [below]))
    | some _ => none

/-- Changes the table that a header's path leads to. The tables on the way are made if they are absent; of
several tables under one name the last counts. -/
def changeAt? (entries : Entries) (path : List String) (change : Entries → Option Entries) :
    Option Entries :=
  match path with
  | [] => change entries
  | name :: path =>
    match entries.lookup name with
    | none => do
      let below ← changeAt? [] path change
      return entries ++ [(name, .table .implied below)]
    | some (.table .braced _) => none
    | some (.table kind below) => do
      let below ← changeAt? below path change
      return entries.replace name (.table kind below)
    | some (.tables items) => do
      let below ← changeAt? (← items.getLast?) path change
      return entries.replace name (.tables (items.dropLast ++ [below]))
    | some _ => none

/-- Opens the table that a header names: a new one, or one that was only implied so far. -/
def openTable? (entries : Entries) (name : String) : Option Entries :=
  match entries.lookup name with
  | none => some (entries ++ [(name, .table .header [])])
  | some (.table .implied below) =>
    some (entries.filter (·.1 ≠ name) ++ [(name, .table .header below)])
  | some _ => none

/-- Opens one more of the tables that a header in double brackets names. -/
def openNextTable? (entries : Entries) (name : String) : Option Entries :=
  match entries.lookup name with
  | none => some (entries ++ [(name, .tables [[]])])
  | some (.tables items) => some (entries.replace name (.tables (items ++ [[]])))
  | some _ => none

end Entries

end BatchJob.Toml
