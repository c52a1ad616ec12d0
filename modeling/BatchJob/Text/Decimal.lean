/-!
# Decimal numbers

Numbers with decimals and exponents as quotients of whole numbers: how they are read from a text, how they are
rounded to a number of binary digits, and how they are written with a number of places, with an exponent, or in the
shorter of the two ways. A half goes to the even neighbour.
-/

namespace BatchJob

/-- A number that is a quotient, or one beyond all of them. -/
inductive Decimal
  | quotient (isNegative : Bool) (numerator denominator : Nat)
  | infinite (isNegative : Bool)
  | undefined (isNegative : Bool)
  deriving DecidableEq, Repr

namespace Decimal

/-- A quotient rounded to a whole number, a half to the even neighbour. -/
def round (numerator denominator : Nat) : Nat :=
  let whole := numerator / denominator
  let rest := 2 * (numerator % denominator)
  if denominator < rest || (rest = denominator && whole % 2 = 1) then whole + 1 else whole

/-! ## Reading -/

/-- The value of a digit. -/
def digit? (base : Nat) (c : Char) : Option Nat :=
  let value :=
    if c.isDigit then c.toNat - 48
    else if 'a' ≤ c && c ≤ 'z' then c.toNat - 87
    else if 'A' ≤ c && c ≤ 'Z' then c.toNat - 55
    else base
  if value < base then some value else none

/-- The value of digits. -/
def ofDigits (base : Nat) (digits : List Char) : Nat :=
  digits.foldl (fun n c => base * n + (digit? base c).getD 0) 0

/-- The exponent at the start of a text after one of two letters, and the text after it. -/
def takeExponent (letters : List Char) (text : List Char) : Int × List Char :=
  match text with
  | c :: rest =>
    if letters.contains c then
      let (isNegative, digits) := match rest with
        | '-' :: digits => (true, digits)
        | '+' :: digits => (false, digits)
        | digits => (false, digits)
      let own := digits.takeWhile Char.isDigit
      if own.isEmpty then (0, text)
      else
        let n : Int := ofDigits 10 own
        (if isNegative then -n else n, digits.drop own.length)
    else (0, text)
  | [] => (0, text)

/-- The greatest power that a number is taken with. -/
def greatestExponent : Nat := 20000

/-- The quotient of a numerator and a power. Beyond the greatest power there is nothing but zero and infinity. -/
def scaled (isNegative : Bool) (numerator denominator base : Nat) (exponent : Int) : Decimal :=
  if numerator = 0 || exponent < -(greatestExponent : Int) then .quotient isNegative 0 1
  else if (greatestExponent : Int) < exponent then .infinite isNegative
  else if 0 ≤ exponent then .quotient isNegative (numerator * Nat.pow base exponent.toNat) denominator
  else .quotient isNegative numerator (denominator * Nat.pow base (-exponent).toNat)

/-- The number without a sign at the start of a text, and the text after it. -/
def takeUnsigned? (isNegative : Bool) (text : List Char) : Option (Decimal × List Char) :=
  let lower := text.map Char.toLower
  let taken (base : Nat) (letters : List Char) (power : Nat) (text : List Char) : Option (Decimal × List Char) :=
    let isDigit (c : Char) : Bool := (digit? base c).isSome
    let whole := text.takeWhile isDigit
    let rest := text.drop whole.length
    let (places, rest) := match rest with
      | '.' :: after =>
        let places := after.takeWhile isDigit
        if whole.isEmpty && places.isEmpty then ([], rest) else (places, after.drop places.length)
      | _ => ([], rest)
    if whole.isEmpty && places.isEmpty then none
    else
      let (exponent, rest) := takeExponent letters rest
      some (scaled isNegative (ofDigits base (whole ++ places)) (Nat.pow base places.length) power exponent, rest)
  if "infinity".toList.isPrefixOf lower then some (.infinite isNegative, text.drop 8)
  else if "inf".toList.isPrefixOf lower then some (.infinite isNegative, text.drop 3)
  else if "nan".toList.isPrefixOf lower then some (.undefined isNegative, text.drop 3)
  else
    let hexadecimal? := match lower with
      | '0' :: 'x' :: _ => taken 16 ['p', 'P'] 2 (text.drop 2)
      | _ => none
    match hexadecimal? with
    | some found => some found
    | none => taken 10 ['e', 'E'] 10 text

/-- The number at the start of a text, after blanks, and the text after it. -/
def take? (text : List Char) : Option (Decimal × List Char) :=
  match text.dropWhile fun c => c == ' ' || (9 ≤ c.toNat && c.toNat ≤ 13) with
  | '-' :: rest => takeUnsigned? true rest
  | '+' :: rest => takeUnsigned? false rest
  | rest => takeUnsigned? false rest

/-! ## Rounding -/

/-- The nearest number with so many binary digits. -/
def nearest (digits : Nat) : Decimal → Decimal
  | .quotient isNegative 0 _ => .quotient isNegative 0 1
  | .quotient isNegative numerator denominator =>
    let guess : Int := (numerator.log2 : Int) - denominator.log2
    let tooLarge := if 0 ≤ guess then numerator < denominator * Nat.pow 2 guess.toNat
      else numerator * Nat.pow 2 (-guess).toNat < denominator
    let exponent := (if tooLarge then guess - 1 else guess) - (digits : Int) + 1
    let mantissa := if 0 ≤ exponent then round numerator (denominator * Nat.pow 2 exponent.toNat)
      else round (numerator * Nat.pow 2 (-exponent).toNat) denominator
    if 0 ≤ exponent then .quotient isNegative (mantissa * Nat.pow 2 exponent.toNat) 1
    else .quotient isNegative mantissa (Nat.pow 2 (-exponent).toNat)
  | other => other

/-! ## Writing -/

/-- The digits of a number, at least so many. -/
def digitsOf (width n : Nat) : String :=
  let digits := toString n
  String.ofList (List.replicate (width - digits.length) '0') ++ digits

/-- A whole number with a point before its last places. -/
def pointed (places : Nat) (keepsPoint : Bool) (n : Nat) : String :=
  let digits := (digitsOf (places + 1) n).toList
  let whole := String.ofList (digits.take (digits.length - places))
  let rest := String.ofList (digits.drop (digits.length - places))
  if places = 0 then (if keepsPoint then whole ++ "." else whole) else whole ++ "." ++ rest

/-- The power of ten of the first digit of a quotient. -/
def magnitude (numerator denominator : Nat) : Int :=
  if numerator = 0 then 0
  else
    let guess : Int := ((toString numerator).length : Int) - (toString denominator).length
    let isBelow := if 0 ≤ guess then numerator < denominator * Nat.pow 10 guess.toNat
      else numerator * Nat.pow 10 (-guess).toNat < denominator
    if isBelow then guess - 1 else guess

/-- The digits of a quotient, so many after the first one, and the power of ten of the first one. -/
def significant (places numerator denominator : Nat) : Nat × Int :=
  let power := magnitude numerator denominator
  let shift := (places : Int) - power
  let n := if 0 ≤ shift then round (numerator * Nat.pow 10 shift.toNat) denominator
    else round numerator (denominator * Nat.pow 10 (-shift).toNat)
  if n = Nat.pow 10 (places + 1) then (Nat.pow 10 places, power + 1) else (n, power)

/-- The ways of writing a number. -/
inductive Style
  | fixed
  | scientific
  | general
  deriving DecidableEq, Repr

/-- An exponent with its letter and its sign, in two digits at least. -/
def exponentText (power : Int) : String :=
  (if power < 0 then "e-" else "e+") ++ digitsOf 2 power.natAbs

/-- A text without zeros at its end, and without a point that is left there. -/
def withoutZeros (text : String) : String :=
  if text.toList.contains '.' then
    let rest := text.toList.reverse.dropWhile (· == '0')
    String.ofList (if rest.head? == some '.' then rest.drop 1 else rest).reverse
  else text

/-- A quotient without its sign. -/
def magnitudeText (style : Style) (places : Nat) (isAlternate : Bool) (numerator denominator : Nat) : String :=
  let fixed (places : Nat) : String := pointed places isAlternate (round (numerator * Nat.pow 10 places) denominator)
  match style with
  | .fixed => fixed places
  | .scientific =>
    let (n, power) := significant places numerator denominator
    pointed places isAlternate n ++ exponentText power
  | .general =>
    let places := max places 1
    let (n, power) := significant (places - 1) numerator denominator
    let trim (text : String) : String := if isAlternate then text else withoutZeros text
    if -4 ≤ power && power < places then trim (fixed ((places : Int) - 1 - power).toNat)
    else trim (pointed (places - 1) isAlternate n) ++ exponentText power

/-- A number without its sign. -/
def unsignedText (style : Style) (places : Nat) (isAlternate : Bool) : Decimal → String
  | .quotient _ numerator denominator => magnitudeText style places isAlternate numerator denominator
  | .infinite _ => "inf"
  | .undefined _ => "nan"

/-- Whether a number has a minus sign. -/
def isNegative : Decimal → Bool
  | .quotient isNegative _ _ | .infinite isNegative | .undefined isNegative => isNegative

end Decimal

end BatchJob
