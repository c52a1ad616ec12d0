import BatchJob.Machine.Programs.Basic
import BatchJob.Machine.Shell.Condition

/-!
# Testing conditions

The program `test`. Up to four arguments are read by their number, more of them as conditions joined by signs; both
ways meet in `readCondition`, which says what the arguments from a place on come to and which ones are left.
-/

namespace BatchJob.Machine.Programs

/-- Why arguments are no condition. -/
inductive TestFault
  | invalidInteger (text : String)
  | missingArgument (last : String)
  | unaryExpected (text : String)
  | binaryExpected (text : String)
  | extraArgument (text : String)
  | parenthesisExpected (found : Option String)
  | missingBracket
  deriving DecidableEq, Repr

/-- What is said of arguments that are no condition. -/
def TestFault.message : TestFault → String
  | .invalidInteger text => "invalid integer " ++ Named.quoted text
  | .missingArgument last => "missing argument after " ++ Named.quoted last
  | .unaryExpected text => Named.quoted text ++ ": unary operator expected"
  | .binaryExpected text => Named.quoted text ++ ": binary operator expected"
  | .extraArgument text => "extra argument " ++ Named.quoted text
  | .parenthesisExpected none => "')' expected"
  | .parenthesisExpected (some found) => "')' expected, found " ++ Named.quoted found
  | .missingBracket => "missing ']'"

/-- The number in an argument, however large it is. -/
def integer (text : String) : Except TestFault Int :=
  let isBlank (c : Char) : Bool := c == ' ' || c == '\t'
  let inner := text.toList.dropWhile isBlank
  let (isNegative, digits) := match inner with
    | '-' :: digits => (true, digits)
    | '+' :: digits => (false, digits)
    | digits => (false, digits)
  let own := digits.takeWhile Char.isDigit
  match Arithmetic.digits? 10 own, (digits.drop own.length).dropWhile isBlank with
  | some n, [] => .ok (if isNegative then -(n : Int) else n)
  | _, _ => .error (.invalidInteger text)

/-- Whether a text is a sign between two operands. -/
def isBinarySign (text : String) : Bool :=
  ["=", "==", "!=", "-nt", "-ot", "-ef"].contains text || (Condition.comparison? text).isSome

/-- Whether a text could be a sign before an operand. -/
def isSignLike (text : String) : Bool :=
  match text.toList with
  | ['-', _] => true
  | _ => false

/-- What a sign between two operands says of them. -/
def compared (fs : FileSystem) (sign first second : String) : Except TestFault Bool :=
  match Condition.comparison? sign with
  | some compare => do return compare (← integer first) (← integer second)
  | none => .ok ((Condition.binary fs sign first second).toOption.getD false)

/-- What a sign before an operand says of it. -/
def tested (fs : FileSystem) (sign operand : String) : Except TestFault Bool := do
  if sign = "-t" then discard (integer operand)
  return (Condition.unary fs sign operand).toOption.getD false

/-- How arguments are read: by their number, or as a part of joined conditions. -/
inductive Reading
  | byNumber (count : Nat)
  | disjunction
  | conjunction
  | term

/-- What the arguments from a place on come to, and those after them; `last` is the last argument of all. The fuel
bounds the depth. -/
def readCondition (fs : FileSystem) (last : String) (fuel : Nat) (reading : Reading) (arguments : List String) :
    Except TestFault (Bool × List String) :=
  match fuel with
  | 0 => .error (.missingArgument last)
  | fuel + 1 =>
    let read := readCondition fs last fuel
    let negated (answer : Except TestFault (Bool × List String)) : Except TestFault (Bool × List String) :=
      answer.map fun (holds, rest) => (!holds, rest)
    let ofUnary (sign : String) (rest : List String) : Except TestFault (Bool × List String) :=
      match Condition.unarySigns.contains sign || sign = "-N", rest with
      | false, _ => .error (.unaryExpected sign)
      | true, [] => .error (.missingArgument last)
      | true, operand :: rest => (tested fs sign operand).map (·, rest)
    match reading, arguments with
    | .byNumber 1, text :: rest => .ok (!text.isEmpty, rest)
    | .byNumber 2, "!" :: rest => negated (read (.byNumber 1) rest)
    | .byNumber 2, sign :: rest => if isSignLike sign then ofUnary sign rest else .error (.missingArgument last)
    | .byNumber 3, first :: sign :: rest =>
      if isBinarySign sign then
        match rest with
        | second :: rest => (compared fs sign first second).map (·, rest)
        | [] => .error (.missingArgument last)
      else if first = "!" then negated (read (.byNumber 2) (sign :: rest))
      else if first = "(" && rest.head? = some ")" then .ok (!sign.isEmpty, rest.drop 1)
      else if sign = "-a" || sign = "-o" then read .disjunction arguments
      else .error (.binaryExpected sign)
    | .byNumber 4, "!" :: rest => negated (read (.byNumber 3) rest)
    | .byNumber 4, first :: rest =>
      if first = "(" && rest[2]? = some ")" then (read (.byNumber 2) rest).map fun (holds, rest) => (holds, rest.drop 1)
      else read .disjunction arguments
    | .byNumber 0, arguments => .ok (false, arguments)
    | .byNumber _, arguments => read .disjunction arguments
    | .disjunction, arguments => do
      let (own, rest) ← read .conjunction arguments
      match rest with
      | "-o" :: rest =>
        let (others, rest) ← read .disjunction rest
        return (own || others, rest)
      | rest => return (own, rest)
    | .conjunction, arguments => do
      let (own, rest) ← read .term arguments
      match rest with
      | "-a" :: rest =>
        let (others, rest) ← read .conjunction rest
        return (own && others, rest)
      | rest => return (own, rest)
    | .term, [] => .error (.missingArgument last)
    | .term, "!" :: rest => negated (read .term rest)
    | .term, "(" :: rest => do
      if rest.isEmpty then .error (.missingArgument last)
      let before := (rest.drop 1).findIdx (· = ")") + 1
      let count := if 4 < before then rest.length else min before rest.length
      match ← read (.byNumber count) rest with
      | (holds, ")" :: rest) => return (holds, rest)
      | (_, rest) => .error (.parenthesisExpected rest.head?)
    | .term, first :: rest =>
      match rest with
      | sign :: second :: others =>
        if isBinarySign sign then (compared fs sign first second).map (·, others)
        else if isSignLike first then ofUnary first rest
        else .ok (!first.isEmpty, rest)
      | rest => if isSignLike first then ofUnary first rest else .ok (!first.isEmpty, rest)

/-- What arguments say. -/
def condition (fs : FileSystem) (arguments : List String) : Except TestFault Bool := do
  let last := arguments.getLast?.getD ""
  let (holds, rest) ←
    readCondition fs last (8 * arguments.length + 8) (.byNumber arguments.length) arguments
  match rest with
  | [] => return holds
  | text :: _ => .error (.extraArgument text)

/-- Exits with what arguments say. -/
def answer (call : Call) (arguments : List String) (found : Option String) : Act Unit := do
  match condition (← Act.look) arguments with
  | .ok holds => Act.exit (if holds then 0 else 1)
  | .error (.parenthesisExpected none) => fail call 2 (TestFault.parenthesisExpected found).message
  | .error fault => fail call 2 fault.message

/-- Tests a condition. -/
def test : Program := fun call =>
  answer call call.arguments none

/-- Tests a condition that a bracket closes. -/
def bracket : Program := fun call =>
  if call.arguments.getLast? = some "]" then answer call call.arguments.dropLast (some "]")
  else fail call 2 TestFault.missingBracket.message

end BatchJob.Machine.Programs
