import BatchJob.Machine.Shell.Script

/-!
# Reading from a script

The text of a script is read from the front, token by token. A cursor knows what is left of the text and the
token that has been looked at but not been taken. What a here-document holds is cut out of the text as soon as
its mark is read, so that the line with the mark goes on undisturbed.
-/

namespace BatchJob.Machine.Script

/-- What a token is. -/
inductive TokenKind
  /-- A word, and its text if nothing in it has a meaning of its own. -/
  | word (word : Word) (plain : Option String)
  | redirection (redirection : Redirection)
  | operator (text : String)
  | finish

/-- A token, with the text from its start on. -/
structure Token where
  kind : TokenKind
  start : List Char

/-- Why a text is no script. -/
inductive SyntaxFault
  /-- A token cannot stand where it does. -/
  | unexpected (found : String) (expected : Option String)
  | badVariable (name : String)
  | badFunctionName (name : String)
  /-- Quotes, braces or parentheses have no end. -/
  | unclosed (opening : String)
  | badDescriptor
  deriving DecidableEq, Repr

/-- Why and in which line a text is no script. -/
structure SyntaxError where
  fault : SyntaxFault
  line : Nat
  deriving DecidableEq, Repr

/-- Where reading is in a script. -/
structure Cursor where
  text : List Char
  dialect : Dialect
  /-- The number of the line after the last one. -/
  lastLine : Nat
  /-- How many lines that were cut out belong after the present line. -/
  cutLines : Nat := 0
  /-- The lines and the marks of the documents that the end of the script has ended. -/
  openDocuments : List (Nat × String) := []
  ahead : Option Token := none
  aliases : List (String × String) := []
  /-- The aliases whose text is being read, each with the length of the text after it. -/
  busy : List (String × Nat) := []
  /-- Whether a sign before a parenthesis makes a group of patterns. -/
  hasGroups : Bool := false

/-- A step of reading. -/
abbrev Reading := StateT Cursor (Except SyntaxError)

/-- A cursor at the start of a text. -/
def Cursor.start (dialect : Dialect) (aliases : List (String × String)) (firstLine : Nat) (text : List Char) :
    Cursor :=
  { text, dialect, aliases, lastLine := firstLine + text.count '\n' }

/-- The line in which the text that is left starts. -/
def Cursor.line (c : Cursor) : Nat :=
  c.lastLine - c.text.count '\n' - c.cutLines

namespace Reading

/-- Fails in the present line. -/
def refuse {α : Type} (fault : SyntaxFault) : Reading α := do
  throw ⟨fault, (← get).line⟩

/-- What is left of the text. -/
def rest : Reading (List Char) :=
  return (← get).text

/-- Goes on with another text. -/
def goTo (text : List Char) : Reading Unit :=
  modify fun c => { c with text }

/-- Whether the script is written in the extended dialect. -/
def isExtended : Reading Bool :=
  return (← get).dialect = .extended

/-- A text without the joins of lines at its start. -/
def skipJoins : List Char → List Char
  | '\\' :: '\n' :: rest => skipJoins rest
  | text => text

/-- The characters at the start of a text that satisfy `p`, and the text after them. Joins of lines do not
count. -/
def takeRun (p : Char → Bool) : List Char → List Char × List Char
  | '\\' :: '\n' :: rest => takeRun p rest
  | c :: rest =>
    if p c then
      let (run, after) := takeRun p rest
      (c :: run, after)
    else ([], c :: rest)
  | [] => ([], [])

/-- Passes over a text if it comes next; answers whether it did. -/
def accept (text : String) : Reading Bool := do
  let rest := skipJoins (← rest)
  if text.toList.isPrefixOf rest then
    goTo (rest.drop text.length)
    return true
  else return false

end Reading

end BatchJob.Machine.Script
