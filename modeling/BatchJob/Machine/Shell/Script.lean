import BatchJob.Machine.Task

/-!
# Scripts

The commands of a shell script and the words in them. A word is a sequence of pieces: texts in quotes or
outside of them, parameters, and scripts whose output takes the place of the piece. There are two dialects:
the standard one, and an extended one with arrays, conditions in double brackets and more kinds of words.
-/

namespace BatchJob.Machine

/-- The dialect of a shell. -/
inductive Dialect
  | standard
  | extended
  deriving DecidableEq, Repr

/-- What a redirection does with its descriptor. -/
inductive RedirectionKind
  /-- It stands for the file at a path. -/
  | path (manner : OpenManner)
  /-- It stands for the file at a path, which is emptied, unless the shell guards the files that are there. -/
  | fresh
  /-- It stands for what another descriptor stands for. -/
  | duplicate
  /-- It stands for the file at a path, together with the standard error. -/
  | both (manner : OpenManner)
  /-- It reads a text that the script itself holds. -/
  | document
  /-- It reads the target itself and a line end. -/
  | line
  deriving DecidableEq, Repr

/-- Where a pattern has to match to be replaced. -/
inductive Anchor
  | anywhere
  | everywhere
  | atStart
  | atEnd
  deriving DecidableEq, Repr

mutual

/-- A part of a word. -/
inductive Piece
  /-- Characters that stand as they are. -/
  | text (isQuoted : Bool) (text : List Char)
  /-- A pair of quotes: there is a field here, be it empty. -/
  | quotes
  /-- What is made of the value of a parameter, or of one of its items. -/
  | parameter (isQuoted : Bool) (name : String) (subscript : Option (List Piece)) (use : Use)
  /-- What a script writes. -/
  | output (isQuoted : Bool) (script : Script)
  /-- The value of an arithmetic expression. -/
  | value (isQuoted : Bool) (expression : List Piece)
  /-- The path of a pipe from a script, or to one. -/
  | channel (isInput : Bool) (script : Script)
  /-- The items of an array, some under keys of their own. -/
  | items (items : List (Option (List Piece) × List Piece))

/-- What is done with the value of a parameter. -/
inductive Use
  | plain
  | length
  /-- A word stands in for a value that is not there; whether an empty value counts as none, and whether the
  word is kept as the value. -/
  | fallback (emptyIsNone keeps : Bool) (word : List Piece)
  /-- A word stands in for a value that is there. -/
  | replacement (emptyIsNone : Bool) (word : List Piece)
  /-- A value that is not there ends the shell. -/
  | requirement (emptyIsNone : Bool) (word : List Piece)
  /-- What a pattern matches is taken away at the start or at the end. -/
  | drop (atEnd isLongest : Bool) (pattern : List Piece)
  | slice (start : List Piece) (length : Option (List Piece))
  /-- What a pattern matches is replaced. -/
  | substitute (anchor : Anchor) (pattern replacement : List Piece)
  /-- Letters that a pattern matches are brought to upper or lower case. -/
  | recase (toUpper everywhere : Bool) (pattern : List Piece)
  /-- The value is written in the way that a letter names. -/
  | transform (letter : Char)
  /-- The value is the name of the parameter that is meant. -/
  | indirect (use : Use)
  /-- The names of variables that start with this one. -/
  | names
  /-- The keys of the items of an array. -/
  | keys
  /-- Something that cannot be done with a value. -/
  | malformed (source : List Char)

/-- A redirection: the descriptor, what is done with it, and the word that names the other side. -/
inductive Redirection
  | mk (descriptor : Nat) (kind : RedirectionKind) (target : List Piece)

/-- The setting of a variable, or of one of its items. -/
inductive Setting
  | mk (name : String) (subscript : Option (List Piece)) (appends : Bool) (value : List Piece)

/-- A condition in double brackets. -/
inductive Test
  | unary (sign : String) (operand : List Piece)
  | binary (sign : String) (first second : List Piece)
  | negated (condition : Test)
  | both (first second : Test)
  | either (first second : Test)

/-- A command of a script. -/
inductive Script
  | nothing
  /-- Settings of variables, and a program with its arguments; the line it stands in. -/
  | simple (line : Nat) (settings : List Setting) (words : List (List Piece))
      (redirections : List Redirection)
  | subshell (body : Script)
  | redirected (line : Nat) (body : Script) (redirections : List Redirection)
  | sequence (first second : Script)
  | both (first second : Script)
  | either (first second : Script)
  | negated (body : Script)
  | background (body : Script)
  /-- Commands whose outputs are the inputs of the next ones. -/
  | pipeline (parts : List Script)
  | choice (condition yes no : Script)
  /-- Repeats the body as long as the condition succeeds, or as long as it fails. -/
  | loop (whileItSucceeds : Bool) (condition body : Script)
  /-- Runs the body with a variable set to each of the words, or to each position where none are given. -/
  | each (line : Nat) (name : String) (words : Option (List (List Piece))) (body : Script)
  /-- Runs the body of the first branch that a word matches. -/
  | matching (line : Nat) (subject : List Piece) (branches : List Branch)
  | function (name : String) (body : Script)
  | condition (line : Nat) (test : Test)
  | arithmetic (line : Nat) (expression : List Piece)
  /-- Repeats the body as long as the second expression is not zero; the first one comes before all rounds, the
  third one after each. -/
  | counted (line : Nat) (first second third : List Piece) (body : Script)

/-- A branch: the patterns for it, its body, and whether the body of the next branch, or the first that matches
of the next branches, comes after it. -/
inductive Branch
  | mk (patterns : List (List Piece)) (body : Script) (goesOn looksOn : Bool)

end

/-- A word: its pieces. -/
abbrev Word := List Piece

instance : Inhabited Script := ⟨.nothing⟩
instance : Inhabited Piece := ⟨.quotes⟩

/-- One command and another one after it, unless one of them is nothing. -/
def Script.followedBy (first second : Script) : Script :=
  match first, second with
  | .nothing, _ => second
  | _, .nothing => first
  | _, _ => .sequence first second

end BatchJob.Machine
