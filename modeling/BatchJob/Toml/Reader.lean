/-!
# Reading from the front of a text

A reader takes something from the front of a text and leaves the rest, or fails. A reader that fails has
taken nothing, so another one can be tried in its place.
-/

namespace BatchJob.Toml

/-- A step that reads from the front of a text. -/
abbrev Reader (α : Type) : Type := StateT (List Char) Option α

namespace Reader

/-- Fails. -/
def fail {α : Type} : Reader α := fun _ => none

/-- The next character, which stays in the text; none at the end. -/
def peek : Reader (Option Char) := fun text => some (text.head?, text)

/-- Takes the next character, which has to be there. -/
def char : Reader Char
  | [] => none
  | c :: rest => some (c, rest)

/-- Takes a word if the text starts with it, and says whether it did. -/
def accept (word : String) : Reader Bool := fun text =>
  if word.toList.isPrefixOf text then some (true, text.drop word.length) else some (false, text)

/-- Takes a word, with which the text has to start. -/
def expect (word : String) : Reader Unit := do
  guard (← accept word)

/-- Takes the characters up to the first one that does not satisfy `p`. -/
def takeWhile (p : Char → Bool) : Reader (List Char) := fun text =>
  some (text.takeWhile p, text.dropWhile p)

/-- Runs a reader with a bound on its depth that is larger than the text is long. -/
def bounded {α : Type} (reader : Nat → Reader α) : Reader α := fun text =>
  reader (2 * text.length + 2) text

/-- What a reader takes from a text, if it takes all of it. -/
def runAll {α : Type} (reader : Reader α) (text : List Char) : Option α :=
  match reader text with
  | some (a, []) => some a
  | _ => none

end Reader

end BatchJob.Toml
