import BatchJob.Text.CharacterClass

/-!
# Texts in quotes

Texts written in such a way that a shell reads them back: between apostrophes, or with a dollar sign and escapes
where there are characters that cannot be printed. What is plain may stand without quotes.
-/

namespace BatchJob.Machine.Shell.Quoted

/-- Characters between apostrophes; the apostrophes among them stand in double quotes outside of them. The fuel is
the number of the characters at most. -/
def inTurns (fuel : Nat) (text : List Char) : List Char :=
  let plain := text.takeWhile (· != '\'')
  let others := text.dropWhile (· != '\'')
  let ticks := others.takeWhile (· == '\'')
  let rest := others.dropWhile (· == '\'')
  let front := '\'' :: plain ++ ['\'']
  if ticks.isEmpty then front
  else
    let front := front ++ '"' :: ticks ++ ['"']
    match fuel, rest with
    | 0, _ | _, [] => front
    | fuel + 1, rest => front ++ inTurns fuel rest

/-- A text between apostrophes; apostrophes in it stand in double quotes outside of them. -/
def withDoubleQuotes (text : String) : String :=
  String.ofList (inTurns text.length text.toList)

/-- A text between apostrophes; an apostrophe in it stands after a backslash outside of them. -/
def withBackslashes (text : String) : String :=
  "'" ++ "'\\''".intercalate (text.splitOn "'") ++ "'"

/-- A character as an escape, if it cannot be printed. -/
def escaped (c : Char) : String :=
  let octal (n : Nat) : String :=
    let digits := String.ofList (Nat.toDigits 8 n)
    "\\" ++ String.ofList (List.replicate (3 - digits.length) '0') ++ digits
  match c with
  | '\n' => "\\n"
  | '\t' => "\\t"
  | '\r' => "\\r"
  | '\x07' => "\\a"
  | '\x08' => "\\b"
  | '\x0b' => "\\v"
  | '\x0c' => "\\f"
  | '\x1b' => "\\E"
  | '\\' => "\\\\"
  | '\'' => "\\'"
  | c => if Text.isInClass "print" c then String.singleton c else octal c.toNat

/-- Whether a text has characters that cannot be printed. -/
def needsEscapes (text : String) : Bool :=
  text.toList.any fun c => !Text.isInClass "print" c

/-- A text with a dollar sign and escapes. -/
def withEscapes (text : String) : String :=
  "$'" ++ String.join (text.toList.map escaped) ++ "'"

/-- A text that can be used again as a word. -/
def reusable (text : String) : String :=
  if needsEscapes text then withEscapes text else withBackslashes text

/-- Whether a character has no meaning to a shell. -/
def isPlain (c : Char) : Bool :=
  c.isAlphanum || "%+,-./:=@_".toList.contains c

/-- A text with a backslash before each character that has a meaning. -/
def backslashed (text : String) : String :=
  if text.isEmpty then "''"
  else if needsEscapes text then withEscapes text
  else String.join (text.toList.map fun c => if isPlain c then String.singleton c else "\\" ++ String.singleton c)

/-- A word as a trace shows it: in quotes only if it has to be. -/
def traced (text : String) : String :=
  if text.isEmpty then "''"
  else if needsEscapes text then withEscapes text
  else if text.toList.all isPlain then text
  else withBackslashes text

end BatchJob.Machine.Shell.Quoted
