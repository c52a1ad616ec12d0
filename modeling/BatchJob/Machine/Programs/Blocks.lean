import BatchJob.FileSystem.Changes
import BatchJob.Machine.Programs.Basic

/-!
# Copying blocks

The program that copies a number of blocks from one file to another, from a place on and to a place, with simple changes
on the way, and says how many it has read and written.
-/

namespace BatchJob.Machine.Programs.Blocks

/-- How many there are in a unit of the program. -/
def factor? : List Char → Option Nat
  | ['c'] => some 1
  | ['w'] => some 2
  | letters => unit? letters

/-- The value of one factor. -/
def single? (text : List Char) : Option Nat :=
  let digits := text.takeWhile Char.isDigit
  if digits.isEmpty then none
  else (factor? (text.drop digits.length)).map (digits.foldl (fun n c => 10 * n + (c.toNat - 48)) 0 * ·)

/-- The number in an operand, which may be a product. -/
def number? (text : String) : Option Nat :=
  (text.splitOn "x").foldl (fun product factor => do return (← product) * (← single? factor.toList)) (some 1)

/-- A number of blocks, or of bytes where the letter for bytes ends it. -/
structure Amount where
  number : Nat
  isBytes : Bool := false

/-- The amount in bytes for blocks of a size. -/
def Amount.bytes (amount : Amount) (size : Nat) : Nat :=
  if amount.isBytes then amount.number else amount.number * size

/-- What the program is to do. -/
structure Plan where
  source : Option String := none
  target : Option String := none
  inputSize : Nat := 512
  outputSize : Nat := 512
  recordSize : Nat := 0
  count : Option Amount := none
  skip : Amount := ⟨0, false⟩
  seek : Amount := ⟨0, false⟩
  conversions : List String := []
  inputFlags : List String := []
  outputFlags : List String := []
  status : String := "default"

/-- The conversions that the program knows. -/
def conversions : List String :=
  ["ascii", "ebcdic", "ibm", "block", "unblock", "lcase", "ucase", "sparse", "swab", "sync", "excl", "nocreat", "notrunc",
    "noerror", "fdatasync", "fsync"]

/-- The flags that the program knows. -/
def flags : List String :=
  ["append", "binary", "cio", "direct", "directory", "dsync", "noatime", "nocache", "noctty", "nofollow", "nolinks",
    "nonblock", "sync", "text", "fullblock", "count_bytes", "skip_bytes", "seek_bytes"]

/-- Why an operand cannot be read, and whether the arguments are to blame. -/
structure OperandFault where
  text : String
  isMisuse : Bool

/-- Reads the words of an operand. -/
def words (what : String) (known : List String) (value : String) : Except OperandFault (List String) :=
  let words := value.splitOn ","
  match words.find? (!known.contains ·) with
  | some word => .error ⟨what ++ ": " ++ Named.plain word, true⟩
  | none => .ok words

/-- Reads an operand. -/
def readOperand (plan : Plan) (operand : String) : Except OperandFault Plan := do
  let name := String.ofList (operand.toList.takeWhile (· != '='))
  let value := String.ofList (operand.toList.drop (name.length + 1))
  let invalid : OperandFault := ⟨"invalid number: " ++ Named.plain value, false⟩
  let number : Except OperandFault Nat := (number? value).elim (throw invalid) pure
  let size : Except OperandFault Nat := do
    let n ← number
    if n = 0 then throw invalid else pure n
  let amount : Except OperandFault Amount := do
    return ⟨← number, value.endsWith "B" && !value.endsWith "iB"⟩
  if name.length = operand.length then throw ⟨"unrecognized operand " ++ Named.plain operand, true⟩
  match name with
  | "if" => return { plan with source := some value }
  | "of" => return { plan with target := some value }
  | "bs" => let n ← size; return { plan with inputSize := n, outputSize := n }
  | "ibs" => return { plan with inputSize := ← size }
  | "obs" => return { plan with outputSize := ← size }
  | "cbs" => return { plan with recordSize := ← size }
  | "count" => return { plan with count := some (← amount) }
  | "skip" | "iseek" => return { plan with skip := ← amount }
  | "seek" | "oseek" => return { plan with seek := ← amount }
  | "conv" => return { plan with conversions := plan.conversions ++ (← words "invalid conversion" conversions value) }
  | "iflag" => return { plan with inputFlags := plan.inputFlags ++ (← words "invalid input flag" flags value) }
  | "oflag" => return { plan with outputFlags := plan.outputFlags ++ (← words "invalid output flag" flags value) }
  | "status" =>
    if ["none", "noxfer", "progress", "default"].contains value then return { plan with status := value }
    else throw ⟨"invalid status level: " ++ Named.plain value, true⟩
  | _ => throw ⟨"unrecognized operand " ++ Named.plain operand, true⟩

/-- Reads the operands; a block size for both sides overrules the others. -/
def readOperands (operands : List String) : Except OperandFault Plan := do
  let both := operands.filter (·.startsWith "bs=")
  let plan ← (operands ++ both).foldlM readOperand {}
  let flagged (flags : List String) (flag : String) (amount : Amount) : Amount :=
    if flags.contains flag then { amount with isBytes := true } else amount
  return { plan with
    count := plan.count.map (flagged plan.inputFlags "count_bytes")
    skip := flagged plan.inputFlags "skip_bytes" plan.skip
    seek := flagged plan.outputFlags "seek_bytes" plan.seek
    conversions := plan.conversions }

/-! ## Conversions -/

/-- A text whose characters change places in pairs. -/
def swapped : List Char → List Char
  | a :: b :: rest => b :: a :: swapped rest
  | rest => rest

/-- Lines as records of one size, filled up with blanks. -/
def blocked (size : Nat) (text : List Char) : List Char :=
  (linesOf '\n' text).flatMap fun line => (line ++ List.replicate (size - line.length) ' ').take size

/-- Records of one size as lines, without the blanks at their ends. The fuel is the length of the text at most. -/
def unblocked (size fuel : Nat) (text : List Char) : List Char :=
  match fuel with
  | 0 => []
  | fuel + 1 =>
    if text.isEmpty then []
    else
      let record := (text.take size).reverse.dropWhile (· == ' ') |>.reverse
      record ++ '\n' :: unblocked size fuel (text.drop size)

/-- A text as the conversions make it; input blocks that are not full are filled up first if asked for. -/
def Plan.converted (plan : Plan) (text : List Char) : List Char :=
  let has (conversion : String) : Bool := plan.conversions.contains conversion
  let missing := (plan.inputSize - text.length % plan.inputSize) % plan.inputSize
  let isRecords := has "block" || has "unblock"
  let text := if has "sync" then text ++ List.replicate missing (if isRecords then ' ' else '\x00') else text
  let text := if has "lcase" then text.map Char.toLower else text
  let text := if has "ucase" then text.map Char.toUpper else text
  let text := if has "swab" then swapped text else text
  if plan.recordSize = 0 then text
  else if has "block" then blocked plan.recordSize text
  else if has "unblock" then unblocked plan.recordSize text.length text
  else text

/-- How many whole and broken blocks some bytes are. -/
def shownBlocks (size bytes : Nat) : String :=
  toString (bytes / size) ++ "+" ++ (if bytes % size = 0 then "0" else "1")

/-- Reads a number of bytes at most, one after the other. -/
def readSingly (descriptor : Nat) : Nat → Act (List Char)
  | 0 => return []
  | n + 1 => do
    let (c, isThere) ← Act.readUntil descriptor fun _ => true
    if isThere then return c.toList ++ (← readSingly descriptor n) else return []

/-- Reads a number of bytes at most, all that there are if no number is given. What others read from the same pipe is
left for them. -/
def read (isShared : Bool) (descriptor : Nat) : Option Nat → Act (Except Errno (List Char))
  | none => do return (← Act.readAll descriptor).map String.toList
  | some n => do
    if isShared && (← Act.measure descriptor).isNone then return .ok (← readSingly descriptor n)
    match ← Act.readEnough descriptor fun bytes _ => n ≤ bytes with
    | .error e => return .error e
    | .ok text =>
      Act.rewind descriptor (text.length - n)
      return .ok (text.toList.take n)

/-- Leaves out bytes at the start; answers whether there are that many. -/
def skip (descriptor n : Nat) : Act Bool := do
  if n = 0 then return true
  match ← Act.measure descriptor with
  | some standing =>
    let isThere := standing.position + n ≤ standing.size
    discard (Act.seek descriptor (min standing.size (standing.position + n)))
    return isThere
  | none => return (← readSingly descriptor n).length = n

/-- Opens the target, which is emptied from the place on where writing starts unless it is to be kept. -/
def openTarget (plan : Plan) (path : String) : Act (Option Errno) := do
  let has (conversion : String) : Bool := plan.conversions.contains conversion
  let start := plan.seek.bytes plan.outputSize
  let isThere := isThere (← Act.look) path
  if has "excl" && isThere then return some .exist
  if has "nocreat" && !isThere then return some .noent
  let isAppended := plan.outputFlags.contains "append"
  let keeps := has "notrunc" || isAppended
  let manner : OpenManner :=
    if isAppended then .append else if keeps || start ≠ 0 then .readWrite else .truncate
  match ← Act.openAt targetDescriptor path manner with
  | some e => return some e
  | none =>
    if !keeps && start ≠ 0 then
      discard (Act.alter (FileSystem.truncate (Text.ofOctets path) start))
    return none

end Blocks

open Blocks in
/-- Copies a number of blocks from one file to another. -/
def dd : Program := fun call => do
  let (_, operands) ← takeOptions call []
  let plan ← match readOperands operands with
    | .ok plan => pure plan
    | .error fault => if fault.isMisuse then misuse call 1 fault.text else fail call 1 fault.text
  if plan.conversions.contains "lcase" && plan.conversions.contains "ucase" then
    fail call 1 "cannot combine lcase and ucase"
  let input := plan.source.getD "standard input"
  let output := plan.target.getD "standard output"
  let opened (path : String) (result : Option Errno) : Act Unit :=
    match result with
    | none => pure ()
    | some e => fail call 1 ("failed to open " ++ Named.quoted path ++ ": " ++ e.libraryPhrase)
  let source := if plan.source.isSome then sourceDescriptor else Task.standardInput
  let target := if plan.target.isSome then targetDescriptor else Task.standardOutput
  match plan.source with
  | some path => opened path (← Act.openAt source path .read)
  | none => pure ()
  match plan.target with
  | some path => opened path (← openTarget plan path)
  | none => pure ()
  let report (read written : Nat) (status : Nat) : Act Unit := do
    if plan.status ≠ "none" then
      Act.complain (shownBlocks plan.inputSize read ++ " records in")
      Act.complain (shownBlocks plan.outputSize written ++ " records out")
      if plan.status ≠ "noxfer" then Act.complain (toString written ++ " bytes copied, 0 s, Infinity B/s")
    Act.exit status
  if !(← skip source (plan.skip.bytes plan.inputSize)) then
    remark call (Named.clear input ++ ": cannot skip to specified offset")
  match ← Act.measure target with
  | some standing => discard (Act.seek target (standing.position + plan.seek.bytes plan.outputSize))
  | none => pure ()
  let limit := plan.count.map (·.bytes plan.inputSize)
  match ← read plan.source.isNone source limit with
  | .error e =>
    remark call ("error reading " ++ Named.quoted input ++ ": " ++ e.libraryPhrase)
    report 0 0 1
  | .ok text =>
    let converted := plan.converted text
    match ← Act.write target (String.ofList converted) with
    | none => report text.length converted.length 0
    | some e =>
      remark call ("error writing " ++ Named.quoted output ++ ": " ++ e.libraryPhrase)
      report (min text.length plan.inputSize) 0 1

end BatchJob.Machine.Programs
