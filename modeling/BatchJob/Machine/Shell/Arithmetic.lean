import BatchJob.Machine.Shell.Basic
import BatchJob.Machine.Shell.Reader.Word

/-!
# Arithmetic

Arithmetic expressions in a word: how they are read, by precedence, and what they come to over the variables of a
shell. Values are 64 bits wide and wrap around. The extended dialect also counts variables up and down, raises to
powers, writes numbers in any base, and takes the value of a variable as an expression in its turn.
-/

namespace BatchJob.Machine

/-- An operator between two values. -/
inductive ArithmeticOperator
  | either | both | bitOr | bitXor | bitAnd | equal | unequal | atMost | atLeast | below | above
  | shiftLeft | shiftRight | plus | minus | times | over | modulo | power | after
  deriving DecidableEq, Repr

/-- Something that can be set: a variable, or one of its items, under the key that an expression gives. -/
structure ArithmeticPlace where
  name : String
  key : Option String := none
  deriving DecidableEq, Repr, Inhabited

/-- An arithmetic expression. -/
inductive Arithmetic
  | number (value : Int)
  | cell (place : ArithmeticPlace)
  | negative (operand : Arithmetic)
  | complement (operand : Arithmetic)
  | isZero (operand : Arithmetic)
  | binary (operator : ArithmeticOperator) (first second : Arithmetic)
  | choice (condition yes no : Arithmetic)
  /-- Sets a place, to the value itself or to what an operator makes of it and the former value. -/
  | assign (place : ArithmeticPlace) (operator : Option ArithmeticOperator) (value : Arithmetic)
  /-- Counts a place up or down; the value is the one before or after that. -/
  | step (place : ArithmeticPlace) (difference : Int) (isAfter : Bool)
  deriving Inhabited

/-- Why a text has no arithmetic value. The text from the error on stands with the cause. -/
inductive ArithmeticFault
  | missingOperand (rest : String)
  /-- One half of a choice is missing. -/
  | missingChoice (rest : String)
  | missingSign (sign rest : String)
  | textAfterEnd (rest : String)
  | divisionByZero (rest : String)
  | illegalNumber (text : String)
  | digitTooGreat (text : String)
  | fixed (name : String)
  | unset (name : String)
  deriving DecidableEq, Repr

namespace Arithmetic

/-! ## Numbers -/

/-- Drops the blanks at the start of a text. -/
def skipBlanks (text : List Char) : List Char :=
  text.dropWhile fun c => c == ' ' || (9 ≤ c.toNat && c.toNat ≤ 13)

/-- The value of a digit. -/
def digit? (c : Char) : Option Nat :=
  if c.isDigit then some (c.toNat - 48)
  else if 'a' ≤ c && c ≤ 'z' then some (c.toNat - 87)
  else if 'A' ≤ c && c ≤ 'Z' then some (c.toNat - 55)
  else none

/-- The value of digits in a base. -/
def digits? (base : Nat) (text : List Char) : Option Nat :=
  text.foldl (fun value c => do
    let value ← value
    let d ← digit? c
    if d < base then some (base * value + d) else none) (if text.isEmpty then none else some 0)

/-- The number at the start of a text without a sign, and the text after it: hexadecimal after `0x`, octal after
`0`, otherwise decimal. -/
def takeNatural? (text : List Char) : Option (Nat × List Char) :=
  let isDigitIn (base : Nat) (c : Char) : Bool := (digit? c).any (· < base)
  let taken (base : Nat) (text : List Char) : Option (Nat × List Char) :=
    let digits := text.takeWhile (isDigitIn base)
    (digits? base digits).map (·, text.drop digits.length)
  match text with
  | '0' :: x :: digits =>
    let hexadecimal? := if x = 'x' || x = 'X' then taken 16 digits else none
    match hexadecimal? with
    | some found => some found
    | none => taken 8 text
  | _ => taken 10 text

/-- The greatest value. -/
def greatest : Nat := Nat.pow 2 63 - 1

/-- The whole number that a text is, with blanks around it; absent where it is none or too great. -/
def integer? (text : String) : Option Int :=
  let text := skipBlanks text.toList
  let (isNegative, digits) := match text with
    | '-' :: digits => (true, digits)
    | '+' :: digits => (false, digits)
    | digits => (false, digits)
  match takeNatural? digits with
  | some (n, rest) =>
    if !(skipBlanks rest).isEmpty then none
    else if isNegative then (if n ≤ greatest + 1 then some (-(n : Int)) else none)
    else if n ≤ greatest then some n else none
  | none => none

/-! ## Reading -/

/-- The operators with their signs and how tightly they bind, a longer sign before each shorter one it starts
with. -/
def operators (dialect : Dialect) : List (String × Nat × ArithmeticOperator) :=
  let shared : List (String × Nat × ArithmeticOperator) :=
    [("||", 1, .either), ("&&", 2, .both), ("==", 6, .equal), ("!=", 6, .unequal), ("<<", 8, .shiftLeft),
      (">>", 8, .shiftRight), ("<=", 7, .atMost), (">=", 7, .atLeast), ("|", 3, .bitOr), ("^", 4, .bitXor),
      ("&", 5, .bitAnd), ("<", 7, .below), (">", 7, .above), ("+", 9, .plus), ("-", 9, .minus),
      ("*", 10, .times), ("/", 10, .over), ("%", 10, .modulo)]
  match dialect with
  | .standard => shared
  | .extended => ("**", 11, .power) :: shared

/-- The operator at the start of a text, how tightly it binds, and the text after it. -/
def takeOperator? (dialect : Dialect) (text : List Char) : Option ((Nat × ArithmeticOperator) × List Char) :=
  (operators dialect).findSome? fun (sign, meaning) =>
    if sign.toList.isPrefixOf text then some (meaning, text.drop sign.length) else none

/-- Whether an operator may stand before the sign of an assignment. -/
def canAssign (operator : ArithmeticOperator) : Bool :=
  [.bitOr, .bitXor, .bitAnd, .shiftLeft, .shiftRight, .plus, .minus, .times, .over, .modulo].contains operator

/-- The sign of an assignment at the start of a text, with the operator before it. -/
def takeAssignment? (dialect : Dialect) (text : List Char) : Option (Option ArithmeticOperator × List Char) :=
  match text with
  | '=' :: '=' :: _ => none
  | '=' :: rest => some (none, rest)
  | _ =>
    match takeOperator? dialect text with
    | some ((_, operator), '=' :: rest) => if canAssign operator then some (some operator, rest) else none
    | _ => none

/-- The text up to the bracket that closes the one before it, and the text after it. -/
def takeKey? (depth : Nat) : List Char → Option (List Char × List Char)
  | [] => none
  | ']' :: rest =>
    if depth = 0 then some ([], rest) else (takeKey? (depth - 1) rest).map fun (key, after) => (']' :: key, after)
  | c :: rest => (takeKey? (if c = '[' then depth + 1 else depth) rest).map fun (key, after) => (c :: key, after)

/-- The place at the start of a text, and the text after it. -/
def takePlace? (dialect : Dialect) (text : List Char) : Option (ArithmeticPlace × List Char) :=
  match text with
  | c :: _ =>
    if Script.Reading.isNameStart c then
      let name := text.takeWhile Script.Reading.isNameChar
      let rest := text.drop name.length
      match dialect, rest with
      | .extended, '[' :: inner =>
        match takeKey? 0 inner with
        | some (key, after) => some ({ name := String.ofList name, key := some (String.ofList key) }, after)
        | none => some ({ name := String.ofList name }, rest)
      | _, _ => some ({ name := String.ofList name }, rest)
    else none
  | [] => none

/-- The value of a digit in a base beyond ten, where letters of the two cases may differ. -/
def digitIn? (base : Nat) (c : Char) : Option Nat :=
  let value? :=
    if c.isDigit then some (c.toNat - 48)
    else if 'a' ≤ c && c ≤ 'z' then some (c.toNat - 87)
    else if 'A' ≤ c && c ≤ 'Z' then some (if base ≤ 36 then c.toNat - 55 else c.toNat - 29)
    else if c = '@' then some 62
    else if c = '_' then some 63
    else none
  value?.filter (· < base)

/-- The number at the start of a text, and the text after it. -/
def takeNumber (dialect : Dialect) (text : List Char) : Except ArithmeticFault (Int × List Char) :=
  match dialect with
  | .standard =>
    match takeNatural? text with
    | some (n, rest) => .ok (min n greatest, rest)
    | none => .error (.missingOperand (String.ofList text))
  | .extended =>
    let token := text.takeWhile fun c => Script.Reading.isNameChar c || c == '#' || c == '@'
    let rest := text.drop token.length
    let base := token.takeWhile (· != '#')
    let fault : ArithmeticFault := .digitTooGreat (String.ofList token)
    match token.drop base.length, digits? 10 base with
    | '#' :: digits, some base =>
      match digits.mapM (digitIn? base) with
      | some values => .ok (((values.foldl (fun n d => base * n + d) 0 : Nat) : Int), rest)
      | none => .error fault
    | _, _ =>
      match takeNatural? token with
      | some (n, []) => .ok (n, rest)
      | _ => .error fault

/-- The parts of the grammar. -/
inductive Level
  /-- Expressions with commas between them. -/
  | listed
  /-- An expression, with its choices and assignments. -/
  | whole
  /-- Operands joined by operators that bind at least as tightly as given. -/
  | joined (tightness : Nat)
  /-- What follows the first operand. -/
  | joinedAfter (tightness : Nat) (first : Arithmetic)
  | operand

/-- Reads a part of the grammar from the front of a text. The fuel bounds the depth. -/
def read (dialect : Dialect) (fuel : Nat) (level : Level) (text : List Char) :
    Except ArithmeticFault (Arithmetic × List Char) :=
  match fuel with
  | 0 => .error (.missingOperand "")
  | fuel + 1 =>
    let before := text
    let text := skipBlanks text
    let read := read dialect fuel
    match level with
    | .listed => do
      let (first, rest) ← read .whole text
      match dialect, skipBlanks rest with
      | .extended, ',' :: rest =>
        let (second, rest) ← read .listed rest
        return (.binary .after first second, rest)
      | _, _ => return (first, rest)
    | .whole => do
      let assignment? : Option (ArithmeticPlace × Option ArithmeticOperator × List Char) := do
        let (place, after) ← takePlace? dialect text
        let (operator, rest) ← takeAssignment? dialect (skipBlanks after)
        return (place, operator, rest)
      match assignment? with
      | some (place, operator, rest) =>
        let (value, rest) ← read .whole rest
        return (.assign place operator value, rest)
      | none =>
        let (condition, rest) ← read (.joined 1) text
        match skipBlanks rest with
        | '?' :: rest =>
          let half (rest : List Char) : Except ArithmeticFault (Arithmetic × List Char) :=
            if dialect = .extended && (skipBlanks rest).isEmpty then .error (.missingChoice "") else read .whole rest
          let (yes, rest) ← half rest
          match skipBlanks rest with
          | ':' :: rest =>
            let (no, rest) ← half rest
            return (.choice condition yes no, rest)
          | rest => .error (.missingSign ":" (String.ofList rest))
        | rest => return (condition, rest)
    | .joined tightness => do
      let (first, rest) ← read .operand text
      read (.joinedAfter tightness first) rest
    | .joinedAfter tightness first =>
      match takeOperator? dialect text with
      | some ((own, operator), rest) =>
        if own < tightness then .ok (first, text)
        else do
          let (second, rest) ← read (.joined (if operator = .power then own else own + 1)) rest
          read (.joinedAfter tightness (.binary operator first second)) rest
      | none => .ok (first, before)
    | .operand =>
      let stepped (difference : Int) (rest : List Char) (otherwise : Except ArithmeticFault (Arithmetic × List Char)) :
          Except ArithmeticFault (Arithmetic × List Char) :=
        match dialect, takePlace? dialect (skipBlanks rest) with
        | .extended, some (place, after) => .ok (.step place difference true, after)
        | _, _ => otherwise
      let signed (sign : Arithmetic → Arithmetic) (rest : List Char) : Except ArithmeticFault (Arithmetic × List Char) :=
        (read .operand rest).map fun (e, rest) => (sign e, rest)
      match text with
      | '(' :: rest => do
        let (inner, rest) ← read .listed rest
        match skipBlanks rest with
        | ')' :: rest => return (inner, rest)
        | rest => .error (.missingSign ")" (String.ofList rest))
      | '+' :: '+' :: rest => stepped 1 rest (signed id ('+' :: rest))
      | '-' :: '-' :: rest => stepped (-1) rest (signed .negative ('-' :: rest))
      | '-' :: rest => signed .negative rest
      | '+' :: rest => signed id rest
      | '~' :: rest => signed .complement rest
      | '!' :: rest => signed .isZero rest
      | c :: _ =>
        if c.isDigit then (takeNumber dialect text).map fun (n, rest) => (.number n, rest)
        else
          match takePlace? dialect text with
          | none => .error (.missingOperand (String.ofList before))
          | some (place, rest) =>
            match dialect, rest with
            | .extended, '+' :: '+' :: rest => .ok (.step place 1 false, rest)
            | .extended, '-' :: '-' :: rest => .ok (.step place (-1) false, rest)
            | _, _ => .ok (.cell place, rest)
      | [] => .error (.missingOperand (String.ofList before))

/-- The expression that a text is; in the extended dialect a blank text is zero. -/
def ofText (dialect : Dialect) (text : List Char) : Except ArithmeticFault Arithmetic := do
  if dialect = .extended && (skipBlanks text).isEmpty then return .number 0
  else
    match ← read dialect (16 * text.length + 16) .listed text with
    | (expression, rest) =>
      if (skipBlanks rest).isEmpty then return expression else .error (.textAfterEnd (String.ofList (skipBlanks rest)))

/-! ## Values -/

/-- A value brought into 64 bits. -/
def wrap (value : Int) : Int :=
  value.bmod UInt64.size

/-- The value of a truth value. -/
def ofBool (b : Bool) : Int :=
  if b then 1 else 0

/-- What a bit operation makes of two values. -/
def bitwise (operation : BitVec 64 → BitVec 64 → BitVec 64) (a b : Int) : Int :=
  (operation (BitVec.ofInt 64 a) (BitVec.ofInt 64 b)).toInt

/-- A power with wrapped values on the way. The fuel is the exponent's number of binary digits at most. -/
def powerOf (fuel : Nat) (base : Int) (exponent : Nat) : Int :=
  match fuel with
  | 0 => 1
  | fuel + 1 =>
    if exponent = 0 then 1
    else
      let half := powerOf fuel (wrap (base * base)) (exponent / 2)
      if exponent % 2 = 1 then wrap (base * half) else half

/-- What an operator makes of two values. -/
def apply (operator : ArithmeticOperator) (a b : Int) : Except ArithmeticFault Int :=
  match operator with
  | .either => .ok (ofBool (a != 0 || b != 0))
  | .both => .ok (ofBool (a != 0 && b != 0))
  | .bitOr => .ok (bitwise (· ||| ·) a b)
  | .bitXor => .ok (bitwise (· ^^^ ·) a b)
  | .bitAnd => .ok (bitwise (· &&& ·) a b)
  | .equal => .ok (ofBool (a == b))
  | .unequal => .ok (ofBool (a != b))
  | .atMost => .ok (ofBool (a ≤ b))
  | .atLeast => .ok (ofBool (b ≤ a))
  | .below => .ok (ofBool (a < b))
  | .above => .ok (ofBool (b < a))
  | .shiftLeft => .ok (wrap (a * Int.pow 2 (b % 64).toNat))
  | .shiftRight => .ok (a / Int.pow 2 (b % 64).toNat)
  | .plus => .ok (wrap (a + b))
  | .minus => .ok (wrap (a - b))
  | .times => .ok (wrap (a * b))
  | .over => if b = 0 then .error (.divisionByZero "0") else .ok (wrap (Int.tdiv a b))
  | .modulo => if b = 0 then .error (.divisionByZero "0") else .ok (Int.tmod a b)
  | .power => if b < 0 then .error (.illegalNumber "exponent less than 0") else .ok (powerOf 64 a b.toNat)
  | .after => .ok b

/-- The text of a place; absent where it is not set. -/
def textAt? (s : Shell) (place : ArithmeticPlace) (index : Int) : Option String :=
  match place.key, s.content? place.name with
  | none, content => content.bind Content.text?
  | some key, some (.keyed items) => items.lookup key
  | some _, content => (Content.toIndexed content).lookup index.toNat

/-- A shell whose place holds a value. -/
def put (s : Shell) (place : ArithmeticPlace) (index : Int) (value : Int) : Except ArithmeticFault Shell :=
  let text := toString value
  if s.isFixed place.name then .error (.fixed place.name)
  else
    match place.key with
    | none => .ok (s.assign place.name text)
    | some key =>
      .ok (s.changeVariable place.name fun entry =>
        match entry.content with
        | some (.keyed items) => { entry with content := some (.keyed (Shell.insertKeyed key text items)) }
        | content => { entry with content := some (.indexed (Content.insertAt index.toNat text (Content.toIndexed content))) })

/-- The value of an expression, and the shell with the variables that the expression has set. The fuel bounds the
depth of the expression and of those that variables hold. -/
def evaluate (fuel : Nat) (s : Shell) (expression : Arithmetic) : Except ArithmeticFault (Int × Shell) :=
  match fuel with
  | 0 => .error (.illegalNumber "expression recursion level exceeded")
  | fuel + 1 =>
    let evaluate := evaluate fuel
    let ofKey (s : Shell) (place : ArithmeticPlace) : Except ArithmeticFault (Int × Shell) :=
      match place.key, s.content? place.name with
      | none, _ | _, some (.keyed _) => .ok (0, s)
      | some key, _ => do evaluate s (← ofText s.dialect key.toList)
    let held (s : Shell) (place : ArithmeticPlace) (index : Int) : Except ArithmeticFault Int :=
      match textAt? s place index with
      | none => if s.isExtended && s.isOn "nounset" then .error (.unset place.name) else .ok 0
      | some text =>
        if (skipBlanks text.toList).isEmpty then .ok 0
        else
          match integer? text, s.dialect with
          | some value, _ => .ok value
          | none, .standard => .error (.illegalNumber text)
          | none, .extended => do return (← evaluate s (← ofText s.dialect text.toList)).1
    match expression with
    | .number value => .ok (wrap value, s)
    | .cell place => do
      let (index, s) ← ofKey s place
      return (← held s place index, s)
    | .negative operand => do
      let (a, s) ← evaluate s operand
      return (wrap (-a), s)
    | .complement operand => do
      let (a, s) ← evaluate s operand
      return (-a - 1, s)
    | .isZero operand => do
      let (a, s) ← evaluate s operand
      return (ofBool (a == 0), s)
    | .binary .both first second => do
      let (a, s) ← evaluate s first
      if a = 0 then return (0, s)
      let (b, s) ← evaluate s second
      return (ofBool (b != 0), s)
    | .binary .either first second => do
      let (a, s) ← evaluate s first
      if a ≠ 0 then return (1, s)
      let (b, s) ← evaluate s second
      return (ofBool (b != 0), s)
    | .binary operator first second => do
      let (a, s) ← evaluate s first
      let (b, s) ← evaluate s second
      return (← apply operator a b, s)
    | .choice condition yes no => do
      let (a, s) ← evaluate s condition
      if a ≠ 0 then evaluate s yes else evaluate s no
    | .assign place operator value => do
      let (index, s) ← ofKey s place
      let (b, s) ← evaluate s value
      let result ← match operator with
        | none => pure b
        | some operator => apply operator (← held s place index) b
      return (result, ← put s place index result)
    | .step place difference isAfter => do
      let (index, s) ← ofKey s place
      let a ← held s place index
      let b := wrap (a + difference)
      return (if isAfter then b else a, ← put s place index b)

/-- The value of the expression in a text. -/
def valueOf (s : Shell) (text : List Char) : Except ArithmeticFault (Int × Shell) := do
  evaluate (16 * text.length + 1024) s (← ofText s.dialect text)

/-- The last name, number or sign of a text, with what follows it. The fuel is the length of the text at most. -/
def lastToken (fuel : Nat) (text : List Char) : List Char :=
  let text := skipBlanks text
  match fuel, text with
  | 0, _ | _, [] => text
  | fuel + 1, c :: rest =>
    let isPart (c : Char) : Bool := Script.Reading.isNameChar c || c == '#' || c == '@'
    let after :=
      if isPart c then rest.dropWhile isPart
      else
        match takeAssignment? .extended text, takeOperator? .extended text with
        | some (_, after), _ => after
        | none, some (_, after) => after
        | none, none => rest
    if (skipBlanks after).isEmpty then text else lastToken fuel after

/-- What is said of a text without an arithmetic value. -/
def complaint (dialect : Dialect) (text : List Char) (fault : ArithmeticFault) : String :=
  let whole := String.ofList text
  match dialect with
  | .standard =>
    let about (what : String) : String := "arithmetic expression: " ++ what ++ ": \"" ++ whole ++ "\""
    match fault with
    | .missingOperand _ | .missingChoice _ => about "expecting primary"
    | .missingSign sign _ => about ("expecting '" ++ sign ++ "'")
    | .textAfterEnd _ => about "expecting EOF"
    | .divisionByZero _ => about "division by zero"
    | .illegalNumber value | .digitTooGreat value => "Illegal number: " ++ value
    | .fixed name => name ++ ": is read only"
    | .unset name => name ++ ": parameter not set"
  | .extended =>
    let whole := String.ofList (skipBlanks text)
    let about (what rest : String) : String :=
      let token := if rest.isEmpty then String.ofList (lastToken text.length text) else rest
      whole ++ ": " ++ what ++ " (error token is \"" ++ token ++ "\")"
    match fault with
    | .missingChoice rest => about "expression expected" rest
    | .missingSign ":" rest => about "\x60:' expected for conditional expression" rest
    | .missingSign sign rest => about ("missing \x60" ++ sign ++ "'") rest
    | .missingOperand rest => about "syntax error: operand expected" (String.ofList (skipBlanks rest.toList))
    | .textAfterEnd rest =>
      let isName := rest.toList.head?.any Script.Reading.isNameChar
      about (if isName then "syntax error in expression" else "syntax error: invalid arithmetic operator") rest
    | .divisionByZero rest => about "division by 0" rest
    | .illegalNumber what => about what ""
    | .digitTooGreat token => about "value too great for base" token
    | .fixed name => name ++ ": readonly variable"
    | .unset name => name ++ ": unbound variable"

end Arithmetic

end BatchJob.Machine
