import BatchJob.Toml.Value

/-!
# Strings and keys

The four ways of writing a string, with one pair of quotes or three, with or without escapes, and the
keys: bare words, strings of one line, and sequences of either between dots.
-/

namespace BatchJob.Toml

open Reader

/-- Whether a character may stand in a string or a comment as it is: all but the control characters, of
which the tab is allowed. -/
def isPlain (c : Char) : Bool :=
  c == '\t' || (' ' ≤ c && c != '\x7f')

/-- The value of a hexadecimal digit. -/
def hexDigit? (c : Char) : Option Nat :=
  if '0' ≤ c && c ≤ '9' then some (c.toNat - '0'.toNat)
  else if 'a' ≤ c && c ≤ 'f' then some (c.toNat - 'a'.toNat + 10)
  else if 'A' ≤ c && c ≤ 'F' then some (c.toNat - 'A'.toNat + 10)
  else none

/-- The character whose code the digits give; surrogates and codes past the last one have none. -/
def charOfHex? (digits : List Char) : Option Char := do
  let code ← digits.foldlM (fun n c => return n * 16 + (← hexDigit? c)) 0
  if code.isValidChar then some (Char.ofNat code) else none

/-- The character that a letter after a backslash stands for. -/
def escaped? : Char → Option Char
  | 'b' => some '\x08'
  | 't' => some '\t'
  | 'n' => some '\n'
  | 'f' => some '\x0c'
  | 'r' => some '\r'
  | 'e' => some '\x1b'
  | '"' => some '"'
  | '\\' => some '\\'
  | _ => none

/-- Puts a character in front of a text that was read, if both are there. -/
def prepend? (c : Option Char) (read : Option (List Char × List Char)) :
    Option (List Char × List Char) :=
  match c, read with
  | some c, some (text, rest) => some (c :: text, rest)
  | _, _ => none

/-- The text up to the closing quote of a string with escapes. -/
def quotedText : List Char → Option (List Char × List Char)
  | [] => none
  | '"' :: rest => some ([], rest)
  | '\\' :: 'x' :: a :: b :: rest => prepend? (charOfHex? [a, b]) (quotedText rest)
  | '\\' :: 'u' :: a :: b :: c :: d :: rest => prepend? (charOfHex? [a, b, c, d]) (quotedText rest)
  | '\\' :: 'U' :: a :: b :: c :: d :: e :: f :: g :: h :: rest =>
    prepend? (charOfHex? [a, b, c, d, e, f, g, h]) (quotedText rest)
  | '\\' :: c :: rest => prepend? (escaped? c) (quotedText rest)
  | c :: rest => if isPlain c then prepend? (some c) (quotedText rest) else none

/-- The text up to the closing quote of a string without escapes. -/
def literalText : List Char → Option (List Char × List Char)
  | [] => none
  | '\'' :: rest => some ([], rest)
  | c :: rest => if isPlain c then prepend? (some c) (literalText rest) else none

/-- Whether a text starts with blanks and then a new line. -/
def startsNewLine (text : List Char) : Bool :=
  match text.dropWhile (fun c => c == ' ' || c == '\t') with
  | '\n' :: _ => true
  | '\r' :: '\n' :: _ => true
  | _ => false

/-- The text up to the closing quotes of a string of several lines with escapes. After a backslash at the
end of a line, blanks and new lines are dropped; `dropping` says that this is going on. Of up to five
quotes at the end, the last three close the string. -/
def quotedBlock : Bool → List Char → Option (List Char × List Char)
  | _, [] => none
  | true, ' ' :: rest => quotedBlock true rest
  | true, '\t' :: rest => quotedBlock true rest
  | true, '\n' :: rest => quotedBlock true rest
  | true, '\r' :: '\n' :: rest => quotedBlock true rest
  | _, '"' :: '"' :: '"' :: '"' :: '"' :: rest => some (['"', '"'], rest)
  | _, '"' :: '"' :: '"' :: '"' :: rest => some (['"'], rest)
  | _, '"' :: '"' :: '"' :: rest => some ([], rest)
  | _, '\\' :: 'x' :: a :: b :: rest => prepend? (charOfHex? [a, b]) (quotedBlock false rest)
  | _, '\\' :: 'u' :: a :: b :: c :: d :: rest =>
    prepend? (charOfHex? [a, b, c, d]) (quotedBlock false rest)
  | _, '\\' :: 'U' :: a :: b :: c :: d :: e :: f :: g :: h :: rest =>
    prepend? (charOfHex? [a, b, c, d, e, f, g, h]) (quotedBlock false rest)
  | _, '\\' :: rest =>
    if startsNewLine rest then quotedBlock true rest
    else
      match rest with
      | c :: rest => prepend? (escaped? c) (quotedBlock false rest)
      | [] => none
  | _, '\r' :: '\n' :: rest => prepend? (some '\r') (prepend? (some '\n') (quotedBlock false rest))
  | _, c :: rest =>
    if c == '\n' || isPlain c then prepend? (some c) (quotedBlock false rest) else none

/-- The text up to the closing quotes of a string of several lines without escapes. -/
def literalBlock : List Char → Option (List Char × List Char)
  | [] => none
  | '\'' :: '\'' :: '\'' :: '\'' :: '\'' :: rest => some (['\'', '\''], rest)
  | '\'' :: '\'' :: '\'' :: '\'' :: rest => some (['\''], rest)
  | '\'' :: '\'' :: '\'' :: rest => some ([], rest)
  | '\r' :: '\n' :: rest => prepend? (some '\r') (prepend? (some '\n') (literalBlock rest))
  | c :: rest => if c == '\n' || isPlain c then prepend? (some c) (literalBlock rest) else none

/-- Takes a new line if there is one. -/
def acceptNewLine : Reader Bool := do
  if ← accept "\n" then return true else accept "\r\n"

/-- A string with one pair of quotes, if the text starts with one. -/
def lineString? : Reader (Option String) := do
  if ← accept "\"" then return some (String.ofList (← quotedText))
  else if ← accept "'" then return some (String.ofList (← literalText))
  else return none

/-- A string, if the text starts with one. -/
def string? : Reader (Option String) := do
  if ← accept "\"\"\"" then
    discard acceptNewLine
    return some (String.ofList (← quotedBlock false))
  else if ← accept "'''" then
    discard acceptNewLine
    return some (String.ofList (← literalBlock))
  else lineString?

/-- Takes the blanks at the front of the text. -/
def blanks : Reader Unit := do
  discard (takeWhile fun c => c == ' ' || c == '\t')

/-- Whether a character may stand in a bare key. -/
def isBare (c : Char) : Bool :=
  c.isAlphanum || c == '_' || c == '-'

/-- A key without dots. -/
def simpleKey : Reader String := do
  match ← lineString? with
  | some text => return text
  | none =>
    let word ← takeWhile isBare
    guard !word.isEmpty
    return String.ofList word

/-- A key as a sequence of simple ones: the tables to pass through and the name in the last of them. -/
structure KeyPath where
  tables : List String
  name : String
  deriving DecidableEq, Repr

/-- A key of at most `depth` simple ones between dots. -/
def dottedKey : Nat → Reader KeyPath
  | 0 => fail
  | depth + 1 => do
    let first ← simpleKey
    blanks
    if ← accept "." then
      blanks
      let path ← dottedKey depth
      return { path with tables := first :: path.tables }
    else return ⟨[], first⟩

/-- How deep the tables of a key, and the brackets and braces of a value, may nest. -/
def maxDepth : Nat := 80

/-- A key; it passes through fewer tables than the nesting may be deep. -/
def keyPath : Reader KeyPath := do
  let path ← bounded dottedKey
  guard (path.tables.length < maxDepth)
  return path

end BatchJob.Toml
