import BatchJob.Machine.Programs.Basic
import BatchJob.Machine.Shell.Format

/-!
# Programs that count

The program that counts the lines, words and bytes of files, and the one that writes the numbers between two others.
-/

namespace BatchJob.Machine.Programs

/-! ## Counting what is in files -/

/-- What is counted in a file. -/
structure Counts where
  lines : Nat := 0
  words : Nat := 0
  bytes : Nat := 0
  longest : Nat := 0
  deriving DecidableEq, Repr

namespace Counts

/-- The counts of several files together. -/
def add (a b : Counts) : Counts :=
  ⟨a.lines + b.lines, a.words + b.words, a.bytes + b.bytes, max a.longest b.longest⟩

/-- The counts of a text whose line has so many columns before it, and where a word may have begun. -/
def count (c : Counts) (column : Nat) (inWord : Bool) : List Char → Counts
  | [] => { c with words := c.words + inWord.toNat, longest := max c.longest column }
  | b :: rest =>
    let c := { c with bytes := c.bytes + 1 }
    let ended := { c with words := c.words + inWord.toNat }
    let line := { ended with longest := max c.longest column }
    if b = '\n' then count { line with lines := c.lines + 1 } 0 false rest
    else if b = '\r' || b = '\x0c' then count line 0 false rest
    else if b = '\t' then count ended (column + 8 - column % 8) false rest
    else if b = ' ' then count ended (column + 1) false rest
    else if b = '\x0b' then count ended column false rest
    else if Text.isInClass "print" b then count c (column + 1) true rest
    else count c column inWord rest

/-- The counts of a text. -/
def ofText (text : String) : Counts :=
  count {} 0 false text.toList

/-- The counts that options ask for, in their order. -/
def asked (options : Options) (c : Counts) : List Nat :=
  (if options.has "l" then [c.lines] else []) ++ (if options.has "w" then [c.words] else []) ++
    (if options.has "m" then [c.bytes] else []) ++ (if options.has "c" then [c.bytes] else []) ++
    (if options.has "L" then [c.longest] else [])

end Counts

/-- How wide counts are written: as wide as the sizes of all files together, and no less than seven columns where
there is something other than a regular file. -/
def countWidth (fs : FileSystem) (input : Option Standing) (files : List String) (number : Nat) : Nat :=
  if files.length ≤ 1 && number = 1 then 1
  else
    let size (file : String) : Option (Option Nat) :=
      if file = "-" then some (input.map Standing.size)
      else
        match nodeAt fs file with
        | .ok (.file _ content) => some (some content.size)
        | .ok _ => some none
        | .error _ => none
    let sizes := (orInput files).filterMap size
    let width := (toString ((sizes.filterMap id).foldl (· + ·) 0)).length
    if sizes.any Option.isNone then max 7 width else width

/-- Counts the lines, words and bytes of files, as far as its options ask for them. -/
def wc : Program := fun call => do
  let (options, files) ← takeOptions call
    [flag "c bytes", flag "m chars", flag "l lines", flag "w words", flag "L max-line-length", valued "total",
      valued "files0-from"]
  let asked := if ["c", "m", "l", "w", "L"].any options.has then options else [("l", ""), ("w", ""), ("c", "")]
  let number := ({} : Counts).asked asked |>.length
  let width := countWidth (← Act.look) (← Act.measure Task.standardInput) files number
  let line (c : Counts) (name : List String) : String :=
    " ".intercalate ((c.asked asked).map (padded width) ++ name) ++ "\n"
  let mut status := 0
  let mut total : Counts := {}
  let showsFiles : Bool := options.value? "total" != some "only"
  for file in orInput files do
    let result ← withSource file Act.readAll
    match result with
    | .error e | .ok (.error e) =>
      remark call ((if file = "-" then "'standard input'" else Named.clear file) ++ ": " ++ e.libraryPhrase)
      status := 1
    | .ok (.ok text) => total := total.add (Counts.ofText text)
    match result with
    | .error _ => pure ()
    | .ok content =>
      let own := (content.map Counts.ofText).toOption.getD {}
      if showsFiles then write call (line own (if files.isEmpty then [] else [Named.clear file]))
  let showsTotal : Bool := match options.value? "total" with
    | some "always" | some "only" => true
    | some "never" => false
    | _ => 1 < files.length
  if showsTotal then write call (line total (if showsFiles then ["total"] else []))
  Act.exit status

/-! ## Numbers in a row -/

/-- An argument that is a number: the number, how many places it has, and how wide it is. -/
structure Bound where
  value : Decimal
  places : Option Nat
  width : Nat
  deriving Repr

/-- The number that an argument is. -/
def bound? (text : String) : Option Bound :=
  let inner := text.toList.dropWhile fun c => c == ' ' || c == '+'
  match Decimal.take? text.toList with
  | some (value, []) =>
    let lower := inner.map Char.toLower
    if lower.contains 'x' || !(value matches .quotient ..) then
      some { value, places := if lower.contains '.' || lower.contains 'p' then none else some 0, width := 0 }
    else
      let mantissa := lower.takeWhile (· != 'e')
      let hasPoint := mantissa.contains '.'
      let whole := mantissa.takeWhile (· != '.')
      let places := mantissa.length - whole.length - 1
      let exponent : Int := (Decimal.takeExponent ['e'] (lower.drop mantissa.length)).1
      let shift := exponent.natAbs
      let isOpen := !(whole.getLast?.any Char.isDigit)
      let width := mantissa.length + if hasPoint && 0 < places && isOpen then 1 else 0
      let width := if hasPoint && places = 0 then width - 1 else width
      if exponent < 0 then some { value, places := some (places + shift), width := width + shift + (if hasPoint then 0 else 1) }
      else
        let left := places - min places shift
        let width := if hasPoint && left = 0 && 0 < places && 0 < shift then width - 1 else width
        some { value, places := some left, width := width + (shift - min places shift) }
  | _ => none

/-- A quotient as a numerator over a denominator, which is a multiple of its own one. -/
def numeratorOver (denominator : Nat) : Decimal → Int
  | .quotient isNegative n d =>
    let n : Int := n * (denominator / d : Nat)
    if isNegative then -n else n
  | _ => 0

/-- The denominator of a number. -/
def denominator : Decimal → Nat
  | .quotient _ _ d => d
  | _ => 1

/-- How the numbers are written where no format is given: with the places that the first one or the step has, and with
zeros before them where all are to be equally wide. -/
def usualPlace (isWide : Bool) (first step last : Bound) : Written.Place :=
  match first.places, step.places, last.places with
  | some a, some b, some c =>
    let places := max a b
    let firstWidth := first.width + (places - a) + if a = 0 && places ≠ 0 then 1 else 0
    let lastWidth := last.width + places - c + (if c = 0 && places ≠ 0 then 1 else 0) -
      if c ≠ 0 && places = 0 then 1 else 0
    { flags := if isWide then ['0'] else []
      width := if isWide then max firstWidth lastWidth else 0, precision := some places, letter := 'f' }
  | _, _, _ => { letter := 'g' }

/-- A format with one place in it: the texts before and after the place. -/
structure NumberFormat where
  before : List Char := []
  place : Written.Place
  after : List Char := []

/-- The text of a format up to its place, with the format from the place on. The fuel is its length at most. -/
def literal (fuel : Nat) (format : List Char) : List Char × List Char :=
  match fuel, format with
  | 0, _ | _, [] => ([], format)
  | fuel + 1, '%' :: '%' :: rest => let (text, rest) := literal fuel rest; ('%' :: text, rest)
  | _, '%' :: _ => ([], format)
  | fuel + 1, c :: rest => let (text, rest) := literal fuel rest; (c :: text, rest)

/-- The format in an argument. -/
def numberFormat (call : Call) (text : String) : Act NumberFormat := do
  let wrong (what : String) : Act NumberFormat := fail call 1 ("format " ++ Named.plain text ++ " " ++ what)
  let (before, rest) := literal text.length text.toList
  match rest with
  | [] => wrong "has no % directive"
  | _ :: rest =>
    match Written.takePlace .program rest [] with
    | (none, _, _) => wrong "ends in %"
    | (some place, rest, _) =>
      if !"efgaEFGA".toList.contains place.letter then
        wrong ("has unknown %" ++ String.singleton place.letter ++ " directive")
      else
        match literal rest.length rest with
        | (after, []) => return { before, place, after }
        | _ => wrong "has too many % directives"

/-- Writes numbers in a row, `count` of them, some at a time. -/
def writeNumbers (call : Call) (format : NumberFormat) (separator : String) (denominator : Nat) (first step : Int)
    (count : Nat) (fuel : Nat) (done : Nat) : Act Unit := do
  match fuel with
  | 0 => return
  | fuel + 1 =>
    let size := min 1000 (count - done)
    let written := (List.range size).map fun i =>
      let i := done + i
      let n := first + i * step
      String.ofList format.before ++ format.place.decimal (.quotient (n < 0) n.natAbs denominator) ++
        String.ofList format.after ++ if i + 1 = count then "\n" else separator
    write call (String.join written)
    if done + size < count then writeNumbers call format separator denominator first step count fuel (done + size)

/-- Arguments in which two hyphens stand before a number with a minus sign, so that it is no option. -/
def withNumbersLast : List String → List String
  | [] => []
  | argument :: rest =>
    match argument.toList, rest with
    | ['-', 's'], value :: rest | ['-', 'f'], value :: rest => argument :: value :: withNumbersLast rest
    | '-' :: c :: _, rest =>
      if c.isDigit || c == '.' then "--" :: argument :: rest
      else if argument = "--" then argument :: rest
      else argument :: withNumbersLast rest
    | _, rest => argument :: rest

/-- Writes the numbers from one to another. -/
def seq : Program := fun call => do
  let (options, operands) ← takeOptions { call with arguments := withNumbersLast call.arguments }
    [valued "f format", valued "s separator", flag "w equal-width"] 1 false
  let one : Bound := { value := .quotient false 1 1, places := some 0, width := 1 }
  let number (text : String) : Act Bound := do
    match bound? text with
    | none => misuse call 1 ("invalid floating point argument: " ++ Named.plain text)
    | some bound =>
      match bound.value with
      | .undefined _ => misuse call 1 ("invalid 'not-a-number' argument: " ++ Named.plain text)
      | _ => return bound
  let (first, step, last) ← match operands with
    | [] => missingOperand call "operand" []
    | [last] => do pure (one, one, ← number last)
    | [first, last] => do pure (← number first, one, ← number last)
    | [first, step, last] => do pure (← number first, ← number step, ← number last)
    | _ :: _ :: _ :: extra :: _ => extraOperand call extra
  let common := denominator first.value * denominator step.value * denominator last.value
  let (a, b, c) := (numeratorOver common first.value, numeratorOver common step.value, numeratorOver common last.value)
  if b = 0 then
    misuse call 1 ("invalid Zero increment value: " ++ Named.plain (operands.getD 1 ""))
  let format ← match options.value? "f" with
    | some text => numberFormat call text
    | none => pure { place := usualPlace (options.has "w") first step last }
  let count := match last.value with
    | .infinite isNegative => if isNegative = (b < 0) then Nat.pow 10 18 else 0
    | _ => ((c - a).fdiv b + 1).toNat
  if count = 0 || (b < 0 && a < c) || (0 < b && c < a) then return
  writeNumbers call format ((options.value? "s").getD "\n") common a b count (count / 1000 + 1) 0

end BatchJob.Machine.Programs
