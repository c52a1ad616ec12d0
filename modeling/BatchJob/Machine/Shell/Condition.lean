import BatchJob.FileSystem.Basic
import BatchJob.Machine.Shell.Arithmetic

/-!
# Conditions

What the command `test` says of its arguments: conditions on texts, numbers and files, joined by `-a` and `-o`. The
two dialects read the same arguments in different ways where they leave a choice.
-/

namespace BatchJob.Machine

/-- Why arguments are no condition. -/
inductive ConditionFault
  | illegalNumber (text : String)
  /-- An argument is missing, after a sign if there is one. -/
  | missingArgument (sign : String)
  | unexpectedOperator (text : String)
  | unaryExpected (text : String)
  | binaryExpected (text : String)
  | tooMany (text : String)
  | missingBracket
  | missingParenthesis
  deriving DecidableEq, Repr

/-- What is said of arguments that are no condition. -/
def ConditionFault.message (dialect : Dialect) (fault : ConditionFault) : String :=
  let tick := "\x60"
  match dialect, fault with
  | .standard, .illegalNumber text => "Illegal number: " ++ text
  | .standard, .missingArgument sign => (if sign.isEmpty then "" else sign ++ ": ") ++ "argument expected"
  | .standard, .unexpectedOperator text | .standard, .tooMany text | .standard, .unaryExpected text
  | .standard, .binaryExpected text => (if text.isEmpty then "" else text ++ ": ") ++ "unexpected operator"
  | .standard, .missingBracket => "missing ]"
  | .standard, .missingParenthesis => "closing paren expected"
  | .extended, .illegalNumber text => text ++ ": integer expression expected"
  | .extended, .missingArgument _ => "argument expected"
  | .extended, .unexpectedOperator text => "syntax error: " ++ tick ++ text ++ "' unexpected"
  | .extended, .unaryExpected text => text ++ ": unary operator expected"
  | .extended, .binaryExpected text => text ++ ": binary operator expected"
  | .extended, .tooMany _ => "too many arguments"
  | .extended, .missingBracket => "missing " ++ tick ++ "]'"
  | .extended, .missingParenthesis => tick ++ ")' expected"

namespace Condition

/-! ## Single conditions -/

/-- The number in an argument, in decimal digits. -/
def number (text : String) : Except ConditionFault Int :=
  let inner := Arithmetic.skipBlanks text.toList
  let (isNegative, digits) := match inner with
    | '-' :: digits => (true, digits)
    | '+' :: digits => (false, digits)
    | digits => (false, digits)
  let own := digits.takeWhile Char.isDigit
  match Arithmetic.digits? 10 own, Arithmetic.skipBlanks (digits.drop own.length) with
  | some n, [] =>
    if Arithmetic.greatest < n then .error (.illegalNumber text)
    else .ok (if isNegative then -(n : Int) else n)
  | _, _ => .error (.illegalNumber text)

/-- What a sign between two numbers says of them. -/
def comparison? : String → Option (Int → Int → Bool)
  | "-eq" => some fun a b => a == b
  | "-ne" => some fun a b => a != b
  | "-lt" => some fun a b => a < b
  | "-le" => some fun a b => a ≤ b
  | "-gt" => some fun a b => b < a
  | "-ge" => some fun a b => b ≤ a
  | _ => none

/-- The number of the node that a path leads to. -/
def nodeAt? (fs : FileSystem) (path : String) : Option NodeId :=
  match fs.locate (Text.ofOctets path) with
  | .ok (.node _ id) => some id
  | _ => none

/-- Whether a text is a sign between two operands. -/
def isBinary (text : String) : Bool :=
  ["=", "!=", "<", ">", "-nt", "-ot", "-ef"].contains text || (comparison? text).isSome

/-- What a sign between two arguments says of them. -/
def binary (fs : FileSystem) (sign first second : String) : Except ConditionFault Bool :=
  match sign with
  | "=" | "==" => .ok (first == second)
  | "!=" => .ok (first != second)
  | "<" => .ok (first < second)
  | ">" => .ok (second < first)
  | "-nt" => .ok ((nodeAt? fs first).isSome && (nodeAt? fs second).isNone)
  | "-ot" => .ok ((nodeAt? fs second).isSome && (nodeAt? fs first).isNone)
  | "-ef" => .ok ((nodeAt? fs first).isSome && nodeAt? fs first == nodeAt? fs second)
  | _ =>
    match comparison? sign with
    | some compare => do return compare (← number first) (← number second)
    | none => .ok false

/-- How many bytes a node holds. -/
def size : Node → Nat
  | .file _ content => content.size
  | .directory _ => 4096
  | _ => 0

/-- The permission bits of a node. -/
def mode : Node → Nat
  | .file mode _ | .directory mode | .fifo mode _ => mode
  | _ => 0

/-- The signs before one operand. -/
def unarySigns : List String :=
  ["-b", "-c", "-d", "-e", "-f", "-g", "-h", "-k", "-L", "-n", "-O", "-G", "-p", "-r", "-s", "-S", "-t", "-u",
    "-w", "-x", "-z"]

/-- What a sign before an argument says of it. -/
def unary (fs : FileSystem) (sign operand : String) : Except ConditionFault Bool :=
  let node := (fs.lookup (Text.ofOctets operand)).toOption
  match sign with
  | "-n" => .ok (!operand.isEmpty)
  | "-z" => .ok operand.isEmpty
  | "-e" | "-a" | "-r" | "-w" | "-O" | "-G" | "-N" => .ok node.isSome
  | "-f" => .ok (node.any fun n => n matches .file .. | .program _)
  | "-d" => .ok (node.any fun n => n matches .directory _)
  | "-p" => .ok (node.any fun n => n matches .fifo .. | .channel _)
  | "-c" => .ok (node.any fun n => n matches .null | .full | .zero)
  | "-s" => .ok (node.any fun n => 0 < size n || n matches .program _)
  | "-x" => .ok (fs.isExecutable (Text.ofOctets operand) || node.any fun n => n matches .directory _)
  | "-u" => .ok (node.any fun n => mode n &&& 0o4000 != 0)
  | "-g" => .ok (node.any fun n => mode n &&& 0o2000 != 0)
  | "-k" => .ok (node.any fun n => mode n &&& 0o1000 != 0)
  | "-t" => (number operand).map fun _ => false
  | _ => .ok false

/-! ## The standard dialect -/

/-- What an argument is at its place. -/
inductive Lexed
  | finish
  | operand
  | unary
  | binary
  | not
  | and
  | or
  | opening
  | closing
  deriving DecidableEq, Repr

/-- What the first of some arguments is. -/
def lex : List String → Lexed
  | [] => .finish
  | text :: rest =>
    match text with
    | "!" => .not
    | "-a" => .and
    | "-o" => .or
    | "(" => if rest.isEmpty then .operand else .opening
    | ")" => .closing
    | _ =>
      if isBinary text then .binary
      else if unarySigns.contains text then
        match rest with
        | [] => .operand
        | next :: _ :: _ => if isBinary next then .operand else .unary
        | [_] => .unary
      else .operand

/-- The parts of the grammar. -/
inductive Level
  | disjunction
  | conjunction
  | negation
  | primary
  deriving DecidableEq, Repr

/-- What arguments say, given what the first of them is, and the arguments from the last one that said it. The fuel
bounds the depth. -/
def read (fs : FileSystem) (fuel : Nat) (level : Level) (first : Lexed) (arguments : List String) :
    Except ConditionFault (Bool × List String) :=
  match fuel with
  | 0 => .error (.missingArgument "")
  | fuel + 1 =>
    match level with
    | .disjunction => do
      let (own, left) ← read fs fuel .conjunction first arguments
      if lex (left.drop 1) = .or then
        let rest := left.drop 2
        let (others, left) ← read fs fuel .disjunction (lex rest) rest
        return (own || others, left)
      else return (own, left)
    | .conjunction => do
      let (own, left) ← read fs fuel .negation first arguments
      if lex (left.drop 1) = .and then
        let rest := left.drop 2
        let (others, left) ← read fs fuel .conjunction (lex rest) rest
        return (own && others, left)
      else return (own, left)
    | .negation =>
      if first = .not then do
        let next := lex (arguments.drop 1)
        let (own, left) ← read fs fuel .negation next (if next = .finish then arguments else arguments.drop 1)
        return (!own, left)
      else read fs fuel .primary first arguments
    | .primary =>
      match first, arguments with
      | .finish, _ | _, [] => .ok (false, arguments)
      | .opening, _ :: rest => do
        if lex rest = .closing then return (false, rest)
        let (own, left) ← read fs fuel .disjunction (lex rest) rest
        let left := left.drop 1
        if lex left = .closing then return (own, left) else .error .missingParenthesis
      | .unary, sign :: rest =>
        match rest with
        | [] => .error (.missingArgument sign)
        | operand :: _ => (unary fs sign operand).map (·, rest)
      | _, text :: rest =>
        match rest with
        | sign :: others =>
          if isBinary sign then
            match others with
            | [] => .error (.missingArgument sign)
            | second :: _ =>
              if sign = "-nt" || sign = "-ot" then .ok (false, others)
              else (binary fs sign text second).map (·, others)
          else .ok (!text.isEmpty, arguments)
        | [] => .ok (!text.isEmpty, arguments)

/-- What arguments say in the standard dialect; `holds` is what no argument at all says. The fuel is their number at
most. -/
def standard (fs : FileSystem) (fuel : Nat) (negates : Bool) (arguments : List String) :
    Except ConditionFault Bool :=
  match fuel, arguments with
  | 0, _ | _, [] => .ok negates
  | fuel + 1, first :: rest =>
    let evaluate (lexed : Lexed) (arguments : List String) : Except ConditionFault Bool := do
      let (own, left) ← read fs (6 * arguments.length + 6) .disjunction lexed arguments
      match left with
      | text :: _ :: _ => .error (.unexpectedOperator text)
      | _ => return own != negates
    let count := arguments.length
    if count = 3 && isBinary (rest.headD "") then evaluate .operand arguments
    else if count = 3 || count = 4 then
      if first = "(" && arguments.getLast? = some ")" then
        let inner := rest.dropLast
        evaluate (lex inner) inner
      else if first = "!" then standard fs fuel true rest
      else evaluate (lex arguments) arguments
    else evaluate (lex arguments) arguments

/-! ## The extended dialect -/

/-- Whether a text is a sign between two operands there. -/
def isBinaryThere (text : String) : Bool :=
  isBinary text || text = "=="

/-- Whether a text is a sign before one operand there. -/
def isUnaryThere (text : String) : Bool :=
  unarySigns.contains text || ["-a", "-N", "-o", "-v", "-R"].contains text

/-- What two arguments say there. -/
def ofTwo (fs : FileSystem) (first second : String) : Except ConditionFault Bool :=
  if first = "!" then .ok second.isEmpty
  else if isUnaryThere first then unary fs first second
  else .error (.unaryExpected first)

/-- What three arguments say there. -/
def ofThree (fs : FileSystem) (first second third : String) : Except ConditionFault Bool :=
  if isBinaryThere second then binary fs second first third
  else if second = "-a" then .ok (!first.isEmpty && !third.isEmpty)
  else if second = "-o" then .ok (!first.isEmpty || !third.isEmpty)
  else if first = "!" then (ofTwo fs second third).map not
  else if first = "(" && third = ")" then .ok (!second.isEmpty)
  else .error (.binaryExpected second)

/-- What arguments say there, and those after them. The fuel bounds the depth. -/
def readThere (fs : FileSystem) (fuel : Nat) (level : Level) (arguments : List String) :
    Except ConditionFault (Bool × List String) :=
  match fuel with
  | 0 => .error (.missingArgument "")
  | fuel + 1 =>
    match level with
    | .disjunction => do
      let (own, rest) ← readThere fs fuel .conjunction arguments
      match rest with
      | "-o" :: rest =>
        let (others, rest) ← readThere fs fuel .disjunction rest
        return (own || others, rest)
      | rest => return (own, rest)
    | .conjunction => do
      let (own, rest) ← readThere fs fuel .primary arguments
      match rest with
      | "-a" :: rest =>
        let (others, rest) ← readThere fs fuel .conjunction rest
        return (own && others, rest)
      | rest => return (own, rest)
    | .negation | .primary =>
      match arguments with
      | [] => .error (.missingArgument "")
      | "!" :: rest => do
        let (own, rest) ← readThere fs fuel .primary rest
        return (!own, rest)
      | "(" :: rest => do
        match ← readThere fs fuel .disjunction rest with
        | (own, ")" :: rest) => return (own, rest)
        | _ => .error .missingParenthesis
      | first :: rest =>
        let compared := match rest with
          | sign :: second :: rest => if isBinaryThere sign then some (sign, second, rest) else none
          | _ => none
        match compared, rest with
        | some (sign, second, rest), _ => (binary fs sign first second).map (·, rest)
        | none, operand :: after =>
          if isUnaryThere first then (unary fs first operand).map (·, after)
          else .ok (!first.isEmpty, rest)
        | none, [] =>
          if isUnaryThere first then .error (.missingArgument first) else .ok (!first.isEmpty, [])

/-- What arguments say in the extended dialect. -/
def extended (fs : FileSystem) (arguments : List String) : Except ConditionFault Bool :=
  let whole : Except ConditionFault Bool := do
    match ← readThere fs (4 * arguments.length + 4) .disjunction arguments with
    | (own, []) => return own
    | (_, text :: _) => if text.startsWith "-" then .error (.unexpectedOperator text) else .error (.tooMany text)
  match arguments with
  | [] => .ok false
  | [text] => .ok (!text.isEmpty)
  | [first, second] => ofTwo fs first second
  | [first, second, third] => ofThree fs first second third
  | ["!", first, second, third] => (ofThree fs first second third).map not
  | ["(", first, second, ")"] => ofTwo fs first second
  | _ => whole

/-- What arguments say. -/
def evaluate (dialect : Dialect) (fs : FileSystem) (arguments : List String) : Except ConditionFault Bool :=
  match dialect with
  | .standard => if arguments.isEmpty then .ok false else standard fs arguments.length false arguments
  | .extended => extended fs arguments

/-- What arguments say the last of which is a closing bracket. -/
def evaluateBracketed (dialect : Dialect) (fs : FileSystem) (arguments : List String) :
    Except ConditionFault Bool :=
  let isClosed := match dialect with
    | .standard => (arguments.getLast?.getD "").startsWith "]"
    | .extended => arguments.getLast? = some "]"
  if isClosed then evaluate dialect fs arguments.dropLast else .error .missingBracket

end Condition

end BatchJob.Machine
