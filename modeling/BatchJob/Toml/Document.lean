import BatchJob.Toml.Scalar

/-!
# Documents

A document is a sequence of lines: headers, which name the table that the lines after them fill, and
entries. `Document.read?` reads the lines and then applies them in order to an empty table. A byte-order
mark at the very front is passed over.
-/

namespace BatchJob.Toml

open Reader

/-- What a line of a document says. -/
inductive Statement
  /-- A header: the entries that follow belong to this table. -/
  | table (path : KeyPath)
  /-- A header in double brackets: the entries that follow belong to one more table of this name. -/
  | nextTable (path : KeyPath)
  /-- An entry of the current table. -/
  | entry (path : KeyPath) (value : Value)

/-- Takes a comment if there is one, up to the end of its line. -/
def comment : Reader Unit := do
  if ← accept "#" then discard (takeWhile isPlain)

/-- Takes blanks, new lines and comments. -/
def gap : Nat → Reader Unit
  | 0 => fail
  | fuel + 1 => do
    blanks
    comment
    if ← acceptNewLine then gap fuel

mutual

/-- A value with at most `depth` brackets and braces open around its parts. -/
def value (depth : Nat) : Nat → Reader Value
  | 0 => fail
  | fuel + 1 => do
    match ← string? with
    | some text => return .string text
    | none =>
      if ← accept "[" then
        guard (0 < depth)
        return .array (← items (depth - 1) fuel)
      else if ← accept "\x7b" then
        guard (0 < depth)
        return .table .braced (← entries (depth - 1) fuel [])
      else scalar

/-- The items of an array up to its closing bracket; a comma may stand before it. -/
def items (depth : Nat) : Nat → Reader (List Value)
  | 0 => fail
  | fuel + 1 => do
    bounded gap
    if ← accept "]" then return []
    let item ← value depth fuel
    bounded gap
    if ← accept "," then return item :: (← items depth fuel)
    expect "]"
    return [item]

/-- The entries of a table up to its closing brace, after those before; a comma may stand before it. -/
def entries (depth : Nat) : Nat → Entries → Reader Entries
  | 0, _ => fail
  | fuel + 1, before => do
    bounded gap
    if ← accept "\x7d" then return before
    let path ← keyPath
    bounded gap
    expect "="
    bounded gap
    let item ← value depth fuel
    match before.addDotted? path.tables path.name item with
    | none => fail
    | some after =>
      bounded gap
      if ← accept "," then entries depth fuel after
      else
        expect "\x7d"
        return after

end

/-- What a line says that is neither blank nor a comment. -/
def statement : Reader Statement := do
  if ← accept "[[" then
    blanks
    let path ← keyPath
    expect "]]"
    return .nextTable path
  else if ← accept "[" then
    blanks
    let path ← keyPath
    expect "]"
    return .table path
  else
    let path ← keyPath
    expect "="
    blanks
    return .entry path (← bounded (value maxDepth))

/-- Takes the end of a line, or finds the end of the text. -/
def lineEnd : Reader Unit := do
  blanks
  comment
  unless ← acceptNewLine do
    guard (← peek).isNone

/-- The statements of at most `fuel` lines, up to the end of the text. -/
def statements : Nat → Reader (List Statement)
  | 0 => fail
  | fuel + 1 => do
    blanks
    match ← peek with
    | none => return []
    | some c =>
      if c == '#' || c == '\n' || c == '\r' then
        lineEnd
        statements fuel
      else
        let first ← statement
        lineEnd
        return first :: (← statements fuel)

/-- A document while its lines are applied: the table of everything and the path of the current table. -/
structure Document where
  root : Entries := []
  current : List String := []

namespace Document

/-- The document with one more line. -/
def extend? (d : Document) : Statement → Option Document
  | .table path => do
    let root ← d.root.changeAt? path.tables (·.openTable? path.name)
    return { root, current := path.tables ++ [path.name] }
  | .nextTable path => do
    let root ← d.root.changeAt? path.tables (·.openNextTable? path.name)
    return { root, current := path.tables ++ [path.name] }
  | .entry path value => do
    let root ← d.root.changeAt? d.current (·.addDotted? path.tables path.name value)
    return { d with root }

/-- The table of a document, if its text is well formed and no line contradicts an earlier one. -/
def read? (text : List Char) : Option Entries := do
  let text := if text.head? = some '\uFEFF' then text.tail else text
  let lines ← (bounded statements).runAll text
  let document ← lines.foldlM extend? {}
  return document.root

end Document

end BatchJob.Toml
