import BatchJob.Toml.Value
import BatchJob.Toml.Text

/-!
# Numbers, truth values and dates

The values that are written without quotes. The first characters decide what a word is to be: a truth value, a
date-time, a float or an integer. Underscores may stand between digits. Of a float only the form is checked,
since no setting is one; and so is an integer's, whose exact value, however large, is kept beside it.
-/

namespace BatchJob.Toml

open Reader

/-- Whether each underscore of a text stands between two digits; one at the very front needs only the digit
after it. -/
def separatesDigits (isDigit : Char → Bool) : List Char → Bool
  | [] => true
  | ['_'] => false
  | '_' :: c :: rest => isDigit c && separatesDigits isDigit (c :: rest)
  | c :: '_' :: rest => isDigit c && separatesDigits isDigit ('_' :: rest)
  | _ :: rest => separatesDigits isDigit rest

/-- Whether the underscores of a number stand between digits, where its sign may stand before the first. -/
def hasFitUnderscores (isDigit : Char → Bool) : List Char → Bool
  | '_' :: _ => false
  | '+' :: rest | '-' :: rest => separatesDigits isDigit rest
  | word => separatesDigits isDigit word

/-- The number that digits stand for in a base of at most sixteen. -/
def ofDigits (base : Nat) (digits : List Char) : Nat :=
  digits.foldl (fun n c => n * base + (hexDigit? c).getD 0) 0

/-- The number that a text of digits stands for; underscores do not count. -/
def natural? (base : Nat) (isDigit : Char → Bool) (text : List Char) : Option Nat :=
  let digits := text.filter (· ≠ '_')
  if !digits.isEmpty && digits.all isDigit then some (ofDigits base digits) else none

/-- The number that a decimal word stands for. -/
def decimal? (word : List Char) : Option Int :=
  match word with
  | '-' :: rest => (natural? 10 Char.isDigit rest).map fun n => -(n : Int)
  | '+' :: rest => (natural? 10 Char.isDigit rest).map Int.ofNat
  | _ => (natural? 10 Char.isDigit word).map Int.ofNat

/-- An integer in the base that a letter after a zero names. -/
def based? (base : Nat) (digits : List Char) : Option Value :=
  let isDigit (c : Char) : Bool :=
    match hexDigit? c with
    | some n => n < base
    | none => false
  if digits.all (fun c => c == '_' || isDigit c) && hasFitUnderscores isDigit digits then
    some (.integer ((natural? base isDigit digits).map Int.ofNat))
  else none

/-- Whether a text starts with the digits of a part of a float, underscores among them, and what is left
after them. Only a part that may have zeros in front may be more than one digit with a zero first. -/
def floatDigits? (mayStartWithZero : Bool) (text : List Char) : Option (List Char) :=
  let (digits, rest) := text.span fun c => c.isDigit || c == '_'
  let count := digits.countP Char.isDigit
  if count = 0 || (1 < count && digits.head? = some '0' && !mayStartWithZero) then none else some rest

/-- What is left after the exponent of a float, if there is one. -/
def afterExponent? : List Char → Option (List Char)
  | 'e' :: '+' :: rest | 'e' :: '-' :: rest | 'E' :: '+' :: rest | 'E' :: '-' :: rest =>
    floatDigits? true rest
  | 'e' :: rest | 'E' :: rest => floatDigits? true rest
  | rest => some rest

/-- Whether a text without sign has the form of a float. -/
def hasFloatForm (text : List Char) : Bool :=
  let afterFraction : List Char → Option (List Char)
    | '.' :: rest => floatDigits? true rest
    | rest => some rest
  (floatDigits? false text >>= afterFraction >>= afterExponent?) = some []

/-- The value of a word that starts, after a sign that it may have, with a digit or an underscore. -/
def number? (word unsigned : List Char) : Option Value :=
  let (digits, rest) := unsigned.span Char.isDigit
  let startsWithZero := unsigned.head? = some '0' && 1 < unsigned.length
  let isInteger := !startsWithZero && hasFitUnderscores (fun c => (hexDigit? c).isSome) word
  match rest with
  | [] => if isInteger then some (.integer (decimal? word)) else none
  | '-' :: _ | ':' :: _ => (DateTime.ofWord? word).map .dateTime
  | mark :: _ =>
    if rest.contains ' ' then none
    else if rest.any fun c => c == '.' || c == 'e' || c == 'E' then
      if hasFloatForm (digits ++ rest) && hasFitUnderscores Char.isDigit word then some .float else none
    else if mark == '_' && isInteger then some (.integer (decimal? word))
    else none

/-- The value that a word without quotes stands for, if it is one. -/
def ofWord? (word : List Char) : Option Value :=
  let afterSign (unsigned : List Char) : Option Value :=
    if unsigned == "inf".toList || unsigned == "nan".toList then some .float
    else
      match unsigned with
      | c :: _ => if c.isDigit || c == '_' then number? word unsigned else none
      | [] => none
  if word == "true".toList then some (.boolean true)
  else if word == "false".toList then some (.boolean false)
  else
    match word with
    | '0' :: 'x' :: digits => based? 16 digits
    | '0' :: 'o' :: digits => based? 8 digits
    | '0' :: 'b' :: digits => based? 2 digits
    | '+' :: rest | '-' :: rest => afterSign rest
    | _ => afterSign word

/-- Whether a character is none that ends a word. -/
def isWordChar (c : Char) : Bool :=
  !(['=', ',', '[', ']', '{', '}', ' ', '\t', '#', '\r', '\n'].contains c)

/-- Whether a character may begin what follows a blank inside a value; so a date and a time may have a blank
between them. -/
def continuesWord (c : Char) : Bool :=
  isWordChar c && c != '.' && c != '\'' && c != '"'

/-- The characters of a value without quotes, with the blanks between its words. -/
def words : Nat → Reader (List Char)
  | 0 => fail
  | fuel + 1 => do
    let word ← takeWhile isWordChar
    let rest ← get
    let blanks := rest.takeWhile fun c => c == ' ' || c == '\t'
    match blanks, rest.drop blanks.length with
    | _ :: _, c :: _ =>
      if continuesWord c then
        set (rest.drop blanks.length)
        return word ++ blanks ++ (← words fuel)
      else return word
    | _, _ => return word

/-- A value without quotes. -/
def scalar : Reader Value := do
  match ofWord? (← bounded words) with
  | some value => return value
  | none => fail

end BatchJob.Toml
