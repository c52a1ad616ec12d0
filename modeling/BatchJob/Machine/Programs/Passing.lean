import BatchJob.Machine.Programs.Basic

/-!
# Programs that pass data on

The programs whose output is their input, or parts of it: whole files with marks where it is asked for, the first and
the last lines or bytes of files, data that goes to several places, and a line that is written over and over.
-/

namespace BatchJob.Machine.Programs

/-! ## Whole files -/

/-- What is marked in a file that is shown. -/
structure Marks where
  numbersLines : Bool
  numbersFilled : Bool
  squeezes : Bool
  showsEnds : Bool
  showsTabs : Bool
  showsHidden : Bool

namespace Marks

/-- The marks that options ask for. -/
def ofOptions (options : Options) : Marks where
  numbersLines := options.has "n" && !options.has "b"
  numbersFilled := options.has "b"
  squeezes := options.has "s"
  showsEnds := ["A", "e", "E"].any options.has
  showsTabs := ["A", "t", "T"].any options.has
  showsHidden := ["A", "e", "t", "v"].any options.has

/-- Whether nothing is marked. -/
def areNone (marks : Marks) : Bool :=
  !(marks.numbersLines || marks.numbersFilled || marks.squeezes || marks.showsEnds || marks.showsTabs ||
    marks.showsHidden)

/-- A byte as it is shown. -/
def shown (marks : Marks) (b : UInt8) : Bytes :=
  if b = 9 then (if marks.showsTabs then [94, 73] else [9])
  else if !marks.showsHidden then [b]
  else
    let low (b : UInt8) : Bytes := if b < 32 then [94, b + 64] else if b = 127 then [94, 63] else [b]
    if b < 128 then low b else 77 :: 45 :: low (b - 128)

/-- The number of a line, before the line. -/
def numeral (n : Nat) : Bytes :=
  Text.toBytes (padded 6 n ++ "\t")

end Marks

/-- How far a file has been shown: the ends of lines since the last byte of a line, the number of the last line that
has one, and whether a carriage return waits for what follows it. -/
structure Shown where
  ends : Nat := 1
  line : Nat := 0
  holdsReturn : Bool := false

namespace Shown

/-- What is noted, as numbers. -/
def toList (s : Shown) : List Nat :=
  [s.ends, s.line, if s.holdsReturn then 1 else 0]

/-- What was noted. -/
def ofList : List Nat → Shown
  | [ends, line, held] => { ends, line, holdsReturn := held = 1 }
  | _ => {}

/-- A byte with the marks it gets, put in front of what was shown before it, last byte first. -/
def step (marks : Marks) (s : Shown) (done : Bytes) (b : UInt8) : Shown × Bytes :=
  let number (n : Nat) (done : Bytes) : Bytes := (Marks.numeral n).reverse ++ done
  if b = 10 then
    let ends := min (s.ends + 1) 3
    if ends = 3 && marks.squeezes then ({ s with ends }, done)
    else
      let isNumbered := 2 ≤ ends && marks.numbersLines
      let line := if isNumbered then s.line + 1 else s.line
      let done := if isNumbered then number line done else done
      let held : Bytes := if s.holdsReturn then [77, 94] else []
      let mark : Bytes := if marks.showsEnds then [36] else []
      ({ ends, line }, 10 :: mark ++ held ++ done)
  else
    let done := if s.holdsReturn then 13 :: done else done
    let isNumbered := 1 ≤ s.ends && (marks.numbersLines || marks.numbersFilled)
    let line := if isNumbered then s.line + 1 else s.line
    let done := if isNumbered then number line done else done
    if b = 13 && marks.showsEnds && !marks.showsHidden then ({ ends := 0, line, holdsReturn := true }, done)
    else ({ ends := 0, line }, (marks.shown b).reverse ++ done)

/-- Some bytes with their marks. -/
def turn (marks : Marks) (noted : List Nat) (bytes : Bytes) : List Nat × Bytes :=
  let (s, done) := bytes.foldl (fun (s, done) b => step marks s done b) (ofList noted, [])
  (s.toList, done.reverse)

end Shown

/-- Whether two descriptors stand for the same regular file, of which there is something left to read. -/
def feedsItself (source target : Nat) : Act Bool := do
  let source ← Act.measure source
  let target ← Act.measure target
  return match source, target with
    | some source, some target => source.node = target.node && source.position < source.size
    | _, _ => false

/-- Shows files one after the other. -/
def cat : Program := fun call => do
  let (options, files) ← takeOptions call
    [flag "A show-all", flag "b number-nonblank", flag "e", flag "E show-ends", flag "n number",
      flag "s squeeze-blank", flag "t", flag "T show-tabs", flag "u", flag "v show-nonprinting"]
  let marks := Marks.ofOptions options
  let turn := if marks.areNone then fun noted bytes => (noted, bytes) else Shown.turn marks
  let mut status := 0
  let mut noted := []
  for file in orInput files do
    let use (noted : List Nat) (source : Nat) : Act (Option (Option Errno) × List Nat) := do
      if ← feedsItself source Task.standardOutput then return (some none, noted)
      match ← Act.convert source Task.standardOutput noted turn with
      | (some (.write e), _) => fail call 1 ("write error: " ++ e.libraryPhrase)
      | (some (.read e), noted) => return (some (some e), noted)
      | (none, noted) => return (none, noted)
    let (fault, after) ← do
      match ← withSource file (use noted) with
      | .error e => pure (some (some e), noted)
      | .ok result => pure result
    noted := after
    match fault with
    | none => pure ()
    | some e =>
      remark call (Named.clear file ++ ": " ++ match e with
        | some e => e.libraryPhrase
        | none => "input file is output file")
      status := 1
  if (Shown.ofList noted).holdsReturn then write call "\r"
  Act.exit status

/-- Writes its input to the standard output and to files. -/
def tee : Program := fun call => do
  let (options, files) ← takeOptions call
    [flag "a append", flag "i ignore-interrupts", flag "p", maybeValued "output-error"]
  let manner : OpenManner := if options.has "a" then .append else .truncate
  let mut status := 0
  let mut opened := []
  for (file, i) in files.zipIdx do
    match ← Act.openAt (targetDescriptor + i) file manner with
    | none => opened := opened ++ [(targetDescriptor + i, file)]
    | some e =>
      remark call (Named.clear file ++ ": " ++ e.libraryPhrase)
      status := 1
  let content ← Act.readAll Task.standardInput
  match content with
  | .error e =>
    remark call ("read error: " ++ e.libraryPhrase)
    status := 1
  | .ok text =>
    for (descriptor, name) in (Task.standardOutput, "standard output") :: opened do
      match ← Act.write descriptor text with
      | none => pure ()
      | some e =>
        remark call ((if descriptor = Task.standardOutput then "'" ++ name ++ "'" else Named.clear name) ++
          ": " ++ e.libraryPhrase)
        status := 1
  Act.exit status

/-- Writes a line over and over. -/
def yes : Program := fun call => do
  let (_, words) ← takeOptions call [] 1 false
  let line := Text.toBytes (" ".intercalate (if words.isEmpty then ["y"] else words) ++ "\n")
  let lines := (List.replicate (8192 / line.length + 1) line).flatten
  let e ← (fun k => .flood Task.standardOutput lines k : Act Errno)
  fail call 1 ("standard output: " ++ e.libraryPhrase)

/-! ## Parts of files -/

/-- What part of a file is passed on. -/
structure Part where
  isBytes : Bool := false
  count : Nat := 10
  /-- Whether the count is one of what is left out: at the end of the file for its first part, at its start for its
  last part. -/
  isLeft : Bool := false
  deriving DecidableEq, Repr

/-- The first lines of a text. -/
def firstLines (ending : Char) : Nat → List Char → List Char
  | 0, _ => []
  | _, [] => []
  | n + 1, c :: rest => c :: firstLines ending (if c = ending then n else n + 1) rest

/-- The number of lines in a text, the last of which need not have its end. -/
def lineCount (ending : Char) (text : List Char) : Nat :=
  text.count ending + if text.getLast?.any (· ≠ ending) then 1 else 0

/-- The first part of a text. -/
def firstPart (part : Part) (ending : Char) (text : List Char) : List Char :=
  let whole := if part.isBytes then text.length else lineCount ending text
  let n := if part.isLeft then whole - part.count else part.count
  if part.isBytes then text.take n else firstLines ending n text

/-- The last part of a text. -/
def lastPart (part : Part) (ending : Char) (text : List Char) : List Char :=
  let whole := if part.isBytes then text.length else lineCount ending text
  let n := if part.isLeft then part.count - 1 else whole - part.count
  if part.isBytes then text.drop n else text.drop (firstLines ending n text).length

/-- The part that an option asks for. -/
def partOf (call : Call) (isBytes : Bool) (sign : Char) (value : String) : Act Part := do
  let (isLeft, digits) := match value.toList with
    | c :: rest => if c = sign then (true, rest) else if c = '-' || c = '+' then (false, rest) else (false, c :: rest)
    | [] => (false, [])
  match quantity? digits with
  | some count => return { isBytes, count, isLeft }
  | none =>
    fail call 1 ("invalid number of " ++ (if isBytes then "bytes" else "lines") ++ ": " ++ Named.plain value)

/-- The part that options ask for, the last of them counting. -/
def partOfOptions (call : Call) (sign : Char) (options : Options) : Act Part := do
  let mut part : Part := {}
  for (name, value) in options do
    if name = "c" || name = "n" then
      part ← partOf call (name = "c") sign value
  return part

/-- The options of the programs for parts of files. -/
def partOptions : List Known :=
  [valued "c bytes", valued "n lines", flag "q quiet silent", flag "v verbose", flag "z zero-terminated"]

/-- Passes on parts of files, under their names where there are several. -/
def passParts (call : Call) (options : Options) (files : List String)
    (use : Nat → Act (Option Errno)) : Act Unit := do
  let isNamed : Bool := match options.last? ["q", "v"] with
    | some name => name == "v"
    | none => 1 < files.length
  let mut status := 0
  let mut isFirst := true
  for file in orInput files do
    let name := if file = "-" then "standard input" else file
    let pass (isFirst : Bool) (source : Nat) : Act (Option Errno) := do
      if isNamed then write call ((if isFirst then "" else "\n") ++ "==> " ++ name ++ " <==\n")
      use source
    match ← withSource file (pass isFirst) with
    | .error e =>
      remark call ("cannot open " ++ Named.quoted file ++ " for reading: " ++ e.libraryPhrase)
      status := 1
    | .ok fault =>
      isFirst := false
      match fault with
      | none => pure ()
      | some e =>
        remark call ("error reading " ++ Named.quoted name ++ ": " ++ e.libraryPhrase)
        status := 1
  Act.exit status

/-- Arguments with a number directly after the first hyphen, as an option with a value. -/
def withCount (arguments : List String) : List String :=
  match arguments with
  | first :: rest =>
    match first.toList with
    | '-' :: c :: text =>
      let digits := (c :: text).takeWhile Char.isDigit
      if digits.isEmpty then arguments
      else
        let letters := (c :: text).drop digits.length
        let unit := letters.filter fun c => "bkm".toList.contains c
        let letter := if letters.contains 'c' || !unit.isEmpty then "-c" else "-n"
        let others := (letters.filter fun c => "qvz".toList.contains c).map fun c => "-" ++ String.singleton c
        if letters.all fun c => "bkmclqvz".toList.contains c then
          others ++ (letter ++ String.ofList (digits ++ unit)) :: rest
        else arguments
    | _ => arguments
  | [] => []

/-- Passes on the first bytes or lines of files, and goes back behind them. -/
def head : Program := fun call => do
  let (options, files) ← takeOptions { call with arguments := withCount call.arguments } partOptions
  let part ← partOfOptions call '-' options
  let ending := lineEnd options
  let isEnough (bytes lines : Nat) : Bool :=
    !part.isLeft && (if part.isBytes then part.count ≤ bytes else ending = '\n' && part.count ≤ lines)
  passParts call options files fun source => do
    if part.count = 0 && !part.isLeft then return none
    match ← Act.readEnough source isEnough with
    | .error e => return some e
    | .ok text =>
      let first := firstPart part ending text.toList
      Act.rewind source (text.length - first.length)
      write call (String.ofList first)
      return none

/-- Arguments with a number directly after the first sign, as an option with a value, and whether the program goes on
after the end of the file. -/
def withSignedCount (arguments : List String) : List String :=
  match arguments with
  | [] => []
  | first :: rest =>
    match first.toList with
    | sign :: text =>
      let digits := text.takeWhile Char.isDigit
      let letters := text.drop digits.length
      let isForm := (sign = '+' || (sign = '-' && !digits.isEmpty)) &&
        ["", "b", "c", "l", "f", "bf", "cf", "lf"].contains (String.ofList letters)
      let isAlone := match rest with
        | [] => true
        | second :: others => (others.isEmpty && !(second.startsWith "-" && 1 < second.length)) || second = "--"
      if isForm && isAlone then
        let digits := if digits.isEmpty then "10" else String.ofList digits
        let value := (if sign = '+' then "+" else "") ++ digits ++ if letters.contains 'b' then "b" else ""
        let option := if letters.contains 'c' || letters.contains 'b' then "-c" else "-n"
        (if letters.contains 'f' then ["-f"] else []) ++ (option ++ value) :: rest
      else arguments
    | [] => arguments

/-- Passes on the last bytes or lines of files, or all from given ones on. -/
def tail : Program := fun call => do
  let known := partOptions ++
    [flag "f", maybeValued "follow", flag "F", flag "retry", valued "s sleep-interval", valued "pid",
      valued "max-unchanged-stats"]
  let (options, files) ← takeOptions { call with arguments := withSignedCount call.arguments } known
  let part ← partOfOptions call '+' options
  let ending := lineEnd options
  let follows := ["f", "F", "follow"].any options.has
  passParts call options files fun source => do
    match ← Act.readAll source with
    | .error e => return some e
    | .ok text =>
      write call (String.ofList (lastPart part ending text.toList))
      if follows && (source ≠ Task.standardInput || (← Act.measure source).isSome) then
        (fun k => .pause (Nat.pow 10 18) (k ()) : Act Unit)
      return none

end BatchJob.Machine.Programs
