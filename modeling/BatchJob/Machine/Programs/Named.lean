import BatchJob.Text.CharacterClass

/-!
# Names in messages

How the programs of the system show names in what they say: as a shell would read them back, in quotes always or only
where it needs them, or in plain quotes with escapes.
-/

namespace BatchJob.Machine.Programs.Named

/-- The letter after a backslash that stands for a character. -/
def escapeLetter? : Char → Option Char
  | '\x07' => some 'a'
  | '\x08' => some 'b'
  | '\x0c' => some 'f'
  | '\n' => some 'n'
  | '\r' => some 'r'
  | '\t' => some 't'
  | '\x0b' => some 'v'
  | _ => none

/-- A character that cannot be printed, as an escape. -/
def escape (c : Char) : List Char :=
  match escapeLetter? c with
  | some letter => ['\\', letter]
  | none =>
    let digits := Nat.toDigits 8 c.toNat
    '\\' :: List.replicate (3 - digits.length) '0' ++ digits

/-- Whether a character can be printed. -/
def isPrintable (c : Char) : Bool :=
  Text.isInClass "print" c

/-- Whether a character has a meaning to a shell wherever it stands. -/
def isSpecial (c : Char) : Bool :=
  !isPrintable c || " !\"$&()*;<=>?[^\x60|'\\".toList.contains c

/-- Whether a text needs quotes, so that a shell reads it back. -/
def needsQuotes (text : List Char) : Bool :=
  text.isEmpty || text.any isSpecial || text = ['\x7b'] || text = ['\x7d'] || text.head?.any fun c => c == '#' || c == '~'

/-- Whether a character means the same between apostrophes and between double quotes. -/
def isAlike (c : Char) : Bool :=
  c.isAlphanum || "%+,-./:]_ '".toList.contains c

/-- A text between apostrophes, which is left for a dollar sign and escapes where characters cannot be printed. -/
def quotedFrom (isEscaping : Bool) : List Char → List Char
  | [] => ['\'']
  | c :: rest =>
    if c = '\'' then "'\\''".toList ++ quotedFrom false rest
    else if isPrintable c then (if isEscaping then ['\'', '\''] else []) ++ c :: quotedFrom false rest
    else (if isEscaping then [] else "'$'".toList) ++ escape c ++ quotedFrom true rest

/-- A text in quotes, so that a shell reads it back. -/
def quoted (text : String) : String :=
  let inner := text.toList
  if inner.contains '\'' && inner.all isAlike then "\"" ++ text ++ "\""
  else String.ofList ('\'' :: quotedFrom false inner)

/-- A text in quotes if a shell needs them to read it back, or if it holds a colon. -/
def clear (text : String) : String :=
  if needsQuotes text.toList || text.toList.contains ':' then quoted text else text

/-- A text in quotes if a shell needs them to read it back. -/
def reusable (text : String) : String :=
  if needsQuotes text.toList then quoted text else text

/-- A text between apostrophes with escapes. -/
def plain (text : String) : String :=
  let character (c : Char) : List Char :=
    if c = '\'' || c = '\\' then ['\\', c] else if isPrintable c then [c] else escape c
  "'" ++ String.ofList (text.toList.flatMap character) ++ "'"

end BatchJob.Machine.Programs.Named
