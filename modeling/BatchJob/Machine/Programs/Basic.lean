import BatchJob.Machine.Act
import BatchJob.Machine.Programs.Named
import BatchJob.Machine.Programs.Options

/-!
# What the programs have in common

How a program of the system is called, and what the programs do alike: they complain under the name that they are
called by, take options, read the files among their arguments one after the other, and read numbers with units.
-/

namespace BatchJob.Machine

/-- What a program is called with. -/
structure Call where
  name : String
  arguments : List String
  environment : List (String × String)

/-- What a program does when it is called. -/
abbrev Program := Call → Act Unit

namespace Programs

variable {α : Type}

/-! ## Complaints -/

/-- Says what is wrong, and goes on. -/
def remark (call : Call) (text : String) : Act Unit :=
  Act.complain (call.name ++ ": " ++ text)

/-- Says what is wrong, and exits. -/
def fail (call : Call) (status : Nat) (text : String) : Act α := do
  remark call text
  Act.exit status

/-- What programs say after complaints about their arguments. -/
def hint (call : Call) : String :=
  "Try '" ++ call.name ++ " --help' for more information."

/-- Says what is wrong with the arguments, and exits. -/
def misuse (call : Call) (status : Nat) (text : String) : Act α := do
  remark call text
  Act.complain (hint call)
  Act.exit status

/-- Exits because there is no operand, or none after the last one given. -/
def missingOperand (call : Call) (what : String) (operands : List String) (status : Nat := 1) : Act α :=
  misuse call status ("missing " ++ what ++ match operands.getLast? with
    | some operand => " after " ++ Named.quoted operand
    | none => "")

/-- Exits because there is an operand more than there may be. -/
def extraOperand (call : Call) (operand : String) (status : Nat := 1) : Act α :=
  misuse call status ("extra operand " ++ Named.quoted operand)

/-! ## Options and output -/

/-- Takes the options of a program from its arguments. -/
def takeOptions (call : Call) (known : List Known) (status : Nat := 1) (mixes : Bool := true) :
    Act (Options × List String) :=
  let known := known ++ [flag "help", flag "version"]
  match readArguments known mixes call.arguments with
  | .error fault => misuse call status fault.message
  | .ok (options, operands) =>
    if options.has "help" || options.has "version" then Act.exit 0 else pure (options, operands)

/-- Writes a text to the standard output, or exits if that is not possible. -/
def write (call : Call) (text : String) (status : Nat := 1) : Act Unit := do
  match ← Act.write Task.standardOutput text with
  | none => return
  | some e => fail call status ("write error: " ++ e.libraryPhrase)

/-! ## Files -/

/-- The descriptors under which programs open files. -/
def sourceDescriptor : Nat := 20
def targetDescriptor : Nat := 21

/-- The files that arguments name, the standard input if they name none. -/
def orInput (files : List String) : List String :=
  if files.isEmpty then ["-"] else files

/-- Does something with a file, or with the standard input where the name is a hyphen; answers why the file cannot be
opened. -/
def withSource (file : String) (use : Nat → Act α) : Act (Except Errno α) := do
  if file = "-" then return .ok (← use Task.standardInput)
  match ← Act.openAt sourceDescriptor file .read with
  | some e => return .error e
  | none =>
    let a ← use sourceDescriptor
    Act.close sourceDescriptor
    return .ok a

/-- Everything in a file, or in the standard input where the name is a hyphen. -/
def contentOf (file : String) : Act (Except Errno String) := do
  match ← withSource file Act.readAll with
  | .ok content => return content
  | .error e => return .error e

/-- What a path leads to, as the system names it. -/
def locate (fs : FileSystem) (path : String) : Except Errno Location :=
  match fs.locate (Text.ofOctets path) with
  | .ok location => .ok location
  | .error (.os e) => .error e
  | .error _ => .error .noent

/-- The node that a path leads to. -/
def nodeAt (fs : FileSystem) (path : String) : Except Errno Node :=
  match locate fs path with
  | .ok (.node _ id) => .ok (fs.node id)
  | .ok (.absent _) => .error .noent
  | .error e => .error e

/-- Whether a path leads to a directory. -/
def isDirectory (fs : FileSystem) (path : String) : Bool :=
  match nodeAt fs path with
  | .ok (.directory _) => true
  | _ => false

/-- Whether something is at a path. -/
def isThere (fs : FileSystem) (path : String) : Bool :=
  (nodeAt fs path).isOk

/-- The last component of a path, without slashes after it. -/
def lastComponent (path : String) : String :=
  ((FileSystem.components path).getLast?).getD path

/-! ## Numbers -/

/-- The units of sizes and their factors, without the letters that may follow them. -/
def units : List (Char × Nat) :=
  [('k', 1), ('K', 1), ('m', 2), ('M', 2), ('g', 3), ('G', 3), ('t', 4), ('T', 4), ('P', 5), ('E', 6), ('Z', 7), ('Y', 8)]

/-- How many there are in a unit. -/
def unit? : List Char → Option Nat
  | [] => some 1
  | ['b'] => some 512
  | letter :: rest =>
    (units.lookup letter).bind fun power =>
      match rest with
      | [] | ['i', 'B'] => some (Nat.pow 1024 power)
      | ['B'] => some (Nat.pow 1000 power)
      | _ => none

/-- A number with a unit after it. -/
def quantity? (text : List Char) : Option Nat :=
  let digits := text.takeWhile Char.isDigit
  if digits.isEmpty then (if text.isEmpty then none else unit? text)
  else (unit? (text.drop digits.length)).map (digits.foldl (fun n c => 10 * n + (c.toNat - 48)) 0 * ·)

/-- A number with blanks before it, so that it is as wide as asked for. -/
def padded (width n : Nat) : String :=
  let digits := toString n
  String.ofList (List.replicate (width - digits.length) ' ') ++ digits

/-! ## Lines -/

/-- The lines of a text without their ends, which are all the same character. -/
def linesOf (ending : Char) (text : List Char) : List (List Char) :=
  let pieces := text.foldr (fun c pieces =>
    match pieces with
    | [] => [[c]]
    | piece :: rest => if c = ending then [] :: piece :: rest else (c :: piece) :: rest) [[]]
  if pieces.getLast? = some [] then pieces.dropLast else pieces

/-- Lines with their ends. -/
def ofLines (ending : Char) (lines : List (List Char)) : String :=
  String.ofList (lines.flatMap (· ++ [ending]))

/-- The end of a line, which an option makes a zero byte. -/
def lineEnd (options : Options) : Char :=
  if options.has "z" then '\x00' else '\n'

end Programs

end BatchJob.Machine
