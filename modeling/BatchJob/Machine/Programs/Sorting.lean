import BatchJob.Machine.Programs.Basic
import BatchJob.Text.Decimal

/-!
# Sorting lines

The program that puts lines in order: by the lines as a whole or by parts of them, as texts, numbers, months or
versions. Lines that are alike in all parts are compared as a whole, unless they are to stay in their order.
-/

namespace BatchJob.Machine.Programs.Sorting

/-- What a part of a line is compared as. -/
inductive Kind
  | text
  | numeric
  | general
  | human
  | month
  | version
  deriving DecidableEq, Repr

/-- How a part of a line is compared. -/
structure Rule where
  kind : Kind := .text
  skipsAtStart : Bool := false
  skipsAtEnd : Bool := false
  onlyDictionary : Bool := false
  onlyPrintable : Bool := false
  foldsCase : Bool := false
  reverses : Bool := false
  deriving DecidableEq, Repr

/-- A part of a line: the field and the character where it starts, and the fields and the characters after them up to
which it goes. -/
structure Key where
  startField : Nat := 0
  startCharacter : Nat := 0
  endField : Option Nat := none
  endCharacter : Nat := 0
  rule : Rule := {}
  deriving DecidableEq, Repr

/-! ## Comparing texts -/

/-- The months, as they begin. -/
def months : List String :=
  ["JAN", "FEB", "MAR", "APR", "MAY", "JUN", "JUL", "AUG", "SEP", "OCT", "NOV", "DEC"]

/-- Whether a character stands between fields. -/
def isBlank (c : Char) : Bool :=
  c == ' ' || c == '\t' || c == '\n'

/-- A number with so many of its digits after the point. -/
structure Number where
  isNegative : Bool := false
  digits : Nat := 0
  places : Nat := 0

/-- The number at the start of a text, zero if there is none, and the text after it. -/
def takeNumber (text : List Char) : Number × List Char :=
  let text := text.dropWhile isBlank
  let (isNegative, text) := match text with
    | '-' :: rest => (true, rest)
    | rest => (false, rest)
  let whole := text.takeWhile Char.isDigit
  let rest := text.drop whole.length
  let (places, rest) := match rest with
    | '.' :: after => (after.takeWhile Char.isDigit, after.dropWhile Char.isDigit)
    | _ => ([], rest)
  ({ isNegative, digits := Decimal.ofDigits 10 (whole ++ places), places := places.length }, rest)

/-- Compares two numbers. -/
def Number.order (a b : Number) : Ordering :=
  let value (n : Number) (others : Nat) : Int :=
    let magnitude : Int := (n.digits * Nat.pow 10 others : Nat)
    if n.isNegative then -magnitude else magnitude
  compare (value a b.places) (value b a.places)

/-- The number at the start of a text and the power of its unit, negated for a negative number. -/
def takeHuman (text : List Char) : Number × Int :=
  let (number, rest) := takeNumber text
  let power : Int := match rest with
    | c :: _ => ("KMGTPEZYRQ".toList.idxOf? (if c = 'k' then 'K' else c)).elim 0 fun i => (i : Int) + 1
    | [] => 0
  (number, if number.digits = 0 then 0 else if number.isNegative then -power else power)

/-- Compares two numbers with exponents; what is no number comes first. -/
def orderGeneral (a b : List Char) : Ordering :=
  let rank : Option (Decimal × List Char) → Nat
    | none => 0
    | some (.undefined _, _) => 1
    | some (.infinite true, _) => 2
    | some (.quotient .., _) => 3
    | some (.infinite false, _) => 4
  match Decimal.take? a, Decimal.take? b with
  | some (.quotient s n d, _), some (.quotient t m e, _) =>
    let signed (isNegative : Bool) (n : Nat) : Int := if isNegative then -(n : Int) else n
    compare (signed s (n * e)) (signed t (m * d))
  | a, b => compare (rank a) (rank b)

/-- The number of the month that a text begins with. -/
def monthOf (text : List Char) : Nat :=
  let name := String.ofList (((text.dropWhile isBlank).take 3).map Char.toUpper)
  (months.idxOf? name).elim 0 (· + 1)

/-- The rank of a character in a version; a tilde comes even before the end. -/
def versionRank : List Char → Int
  | [] => -1
  | c :: _ => if c.isDigit then 0 else if c.isAlpha then c.toNat else if c = '~' then -2 else c.toNat + 256

/-- Compares versions: texts by their ranks and numbers by their values in turn. The fuel is the length of both. -/
def orderVersions (fuel : Nat) (a b : List Char) : Ordering :=
  match fuel with
  | 0 => .eq
  | fuel + 1 =>
    if a.isEmpty && b.isEmpty then .eq
    else if (a.head?.any fun c => !c.isDigit) || (b.head?.any fun c => !c.isDigit) then
      match compare (versionRank a) (versionRank b) with
      | .eq => orderVersions fuel (a.drop 1) (b.drop 1)
      | order => order
    else
      let number (text : List Char) : Nat := Decimal.ofDigits 10 (text.takeWhile Char.isDigit)
      match compare (number a) (number b) with
      | .eq => orderVersions fuel (a.dropWhile Char.isDigit) (b.dropWhile Char.isDigit)
      | order => order

/-- Compares texts byte by byte. -/
def orderTexts : List Char → List Char → Ordering
  | [], [] => .eq
  | [], _ => .lt
  | _, [] => .gt
  | a :: as, b :: bs => if a = b then orderTexts as bs else if a < b then .lt else .gt

/-- The characters of a text that count. -/
def Rule.counted (rule : Rule) (text : List Char) : List Char :=
  let isCounted (c : Char) : Bool :=
    (!rule.onlyDictionary || isBlank c || c.isAlphanum) && (!rule.onlyPrintable || Text.isInClass "print" c)
  (text.filter isCounted).map fun c => if rule.foldsCase then c.toUpper else c

/-- Compares parts of lines. -/
def Rule.order (rule : Rule) (a b : List Char) : Ordering :=
  let order := match rule.kind with
    | .text => orderTexts (rule.counted a) (rule.counted b)
    | .numeric => (takeNumber a).1.order (takeNumber b).1
    | .general => orderGeneral a b
    | .human =>
      let ((a, power), (b, power')) := (takeHuman a, takeHuman b)
      (compare power power').then (a.order b)
    | .month => compare (monthOf a) (monthOf b)
    | .version => (orderVersions (a.length + b.length + 2) a b).then (orderTexts a b)
  if rule.reverses then order.swap else order

/-! ## Parts of lines -/

/-- A text after its first field and, if asked for, what ends it. -/
def afterField (separator : Option Char) (passesEnd : Bool) (text : List Char) : List Char :=
  match separator with
  | some c =>
    let rest := text.dropWhile (· != c)
    if passesEnd then rest.drop 1 else rest
  | none => (text.dropWhile isBlank).dropWhile fun c => !isBlank c

/-- A text after fields. -/
def afterFields (separator : Option Char) : Nat → List Char → List Char
  | 0, text => text
  | n + 1, text => afterFields separator n (afterField separator true text)

/-- The part of a line. -/
def Key.part (key : Key) (separator : Option Char) (line : List Char) : List Char :=
  let rest := afterFields separator key.startField line
  let rest := if key.rule.skipsAtStart then rest.dropWhile isBlank else rest
  let start := line.length - (rest.drop key.startCharacter).length
  let finish := match key.endField with
    | none => line.length
    | some fields =>
      if key.endCharacter = 0 then
        line.length - (afterField separator false (afterFields separator fields line)).length
      else
        let rest := afterFields separator fields line
        let rest := if key.rule.skipsAtEnd then rest.dropWhile isBlank else rest
        line.length - (rest.drop key.endCharacter).length
  (line.drop start).take (finish - start)

/-- How lines are put in order. -/
structure Plan where
  separator : Option Char := none
  keys : List Key := []
  reverses : Bool := false
  isStable : Bool := false
  isUnique : Bool := false

/-- Compares lines by their parts. -/
def Plan.orderByKeys (plan : Plan) (a b : List Char) : Ordering :=
  plan.keys.foldl (fun order key =>
    order.then (key.rule.order (key.part plan.separator a) (key.part plan.separator b))) .eq

/-- Compares lines. -/
def Plan.order (plan : Plan) (a b : List Char) : Ordering :=
  let whole : Ordering := if plan.reverses then (orderTexts a b).swap else orderTexts a b
  if plan.keys.isEmpty then whole
  else
    let byKeys := plan.orderByKeys a b
    if plan.isStable || plan.isUnique then byKeys else byKeys.then whole

/-- Leaves out the lines that are like the one before them. -/
def Plan.distinct (plan : Plan) : List (List Char) → List (List Char)
  | [] => []
  | first :: rest =>
    match plan.distinct rest with
    | [] => [first]
    | second :: others => if plan.order first second = .eq then first :: others else first :: second :: others

/-- Lines in order. -/
def Plan.sort (plan : Plan) (lines : List (List Char)) : List (List Char) :=
  let lines := lines.mergeSort fun a b => plan.order a b != .gt
  if plan.isUnique then plan.distinct lines else lines

/-- Files whose lines are in order, as one. -/
def Plan.merge (plan : Plan) (files : List (List (List Char))) : List (List Char) :=
  let lines := files.foldl (fun lines file => List.merge lines file fun a b => plan.order a b != .gt) []
  if plan.isUnique then plan.distinct lines else lines

/-- The number of the first line that is out of order, and the line. -/
def Plan.disorder? (plan : Plan) (number : Nat) : List (List Char) → Option (Nat × List Char)
  | first :: second :: rest =>
    let order := plan.order first second
    if order = .gt || (plan.isUnique && order = .eq) then some (number + 1, second)
    else plan.disorder? (number + 1) (second :: rest)
  | _ => none

/-! ## Options -/

/-- Changes a rule by the letter of an option. -/
def Rule.change? (rule : Rule) (atStart atEnd : Bool) : Char → Option Rule
  | 'b' => some { rule with skipsAtStart := rule.skipsAtStart || atStart, skipsAtEnd := rule.skipsAtEnd || atEnd }
  | 'd' => some { rule with onlyDictionary := true }
  | 'f' => some { rule with foldsCase := true }
  | 'g' => some { rule with kind := .general }
  | 'h' => some { rule with kind := .human }
  | 'i' => some { rule with onlyPrintable := true }
  | 'M' => some { rule with kind := .month }
  | 'n' => some { rule with kind := .numeric }
  | 'r' => some { rule with reverses := true }
  | 'V' => some { rule with kind := .version }
  | _ => none

/-- Changes a rule by the letters at the start of a text, and answers the text after them. -/
def takeLetters (atStart atEnd : Bool) (rule : Rule) : List Char → Rule × List Char
  | [] => (rule, [])
  | c :: rest =>
    match rule.change? atStart atEnd c with
    | some rule => takeLetters atStart atEnd rule rest
    | none => (rule, c :: rest)

/-- A number at the start of a text. -/
def takeField (what : String) (text : List Char) : Except String (Nat × List Char) :=
  let digits := text.takeWhile Char.isDigit
  if digits.isEmpty then .error (what ++ ": invalid count at start of " ++ Named.plain (String.ofList text))
  else .ok (Decimal.ofDigits 10 digits, text.drop digits.length)

/-- A field, counted from zero, and the character in it if one is given. -/
def takePlace (fieldFault : String) (spec : String) (isEnd : Bool) (text : List Char) :
    Except String (Nat × Nat × List Char) := do
  let invalid (what : String) : String := what ++ ": invalid field specification " ++ Named.plain spec
  let (field, rest) ← takeField fieldFault text
  if field = 0 then throw (invalid "field number is zero")
  match rest with
  | '.' :: rest =>
    let (character, rest) ← takeField "invalid number after '.'" rest
    if !isEnd && character = 0 then throw (invalid "character offset is zero")
    return (field - 1, (if isEnd then character else character - 1), rest)
  | _ => return (field - 1, 0, rest)

/-- The part of a line that a text describes. -/
def key (spec : String) : Except String Key := do
  let stray := "stray character in field spec: invalid field specification " ++ Named.plain spec
  let (startField, startCharacter, rest) ← takePlace "invalid number at field start" spec false spec.toList
  let (rule, rest) := takeLetters true false {} rest
  match rest with
  | [] => return { startField, startCharacter, rule }
  | ',' :: rest =>
    let (endField, endCharacter, rest) ← takePlace "invalid number after ','" spec true rest
    let (rule, rest) := takeLetters false true rule rest
    if rest.isEmpty then return { startField, startCharacter, endField := some endField, endCharacter, rule }
    else throw stray
  | _ => throw stray

/-- The rule that options ask for. -/
def ruleOf (options : Options) : Rule :=
  let words := [("general-numeric", 'g'), ("human-numeric", 'h'), ("month", 'M'), ("numeric", 'n'), ("version", 'V')]
  options.foldl (fun rule (name, value) =>
    let letter := if name = "sort" then (words.lookup value).getD 's' else name.toList.headD 's'
    if 1 < name.length && name ≠ "sort" then rule else (rule.change? true true letter).getD rule) {}

/-- How options say that lines are put in order. -/
def planOf (options : Options) (keys : List Key) (separator : Option Char) : Plan :=
  let rule := ruleOf options
  let keys := keys.map fun key => if key.rule = {} then { key with rule } else key
  let keys := if keys.isEmpty && { rule with reverses := false } ≠ ({} : Rule) then [{ rule }] else keys
  { separator, keys, reverses := rule.reverses, isStable := options.has "s", isUnique := options.has "u" }

/-- The options of the program. -/
def known : List Known :=
  [flag "b ignore-leading-blanks", flag "d dictionary-order", flag "f ignore-case", flag "g general-numeric-sort",
    flag "i ignore-nonprinting", flag "M month-sort", flag "h human-numeric-sort", flag "n numeric-sort",
    flag "R random-sort", flag "r reverse", flag "V version-sort", valued "sort", flag "m merge",
    flag "c", maybeValued "check", flag "C", valued "o output", flag "s stable", valued "S buffer-size",
    valued "t field-separator", valued "T temporary-directory", flag "u unique", flag "z zero-terminated",
    valued "k key", valued "parallel", valued "batch-size", flag "debug"]

end Sorting

open Sorting in
/-- Puts the lines of files in order, or says whether they are. -/
def sort : Program := fun call => do
  let (options, files) ← takeOptions call known 2
  let ending := lineEnd options
  let separator ← match options.value? "t" with
    | none => pure none
    | some text =>
      match text.toList with
      | [] => fail call 2 "empty tab"
      | [c] => pure (some c)
      | ['\\', '0'] => pure (some '\x00')
      | _ => fail call 2 ("multi-character tab " ++ Named.plain text)
  let mut keys := []
  for (name, value) in options do
    if name = "k" then
      match key value with
      | .ok key => keys := keys ++ [key]
      | .error what => fail call 2 what
  let plan := planOf options keys separator
  let isQuiet := options.has "C" || ["quiet", "silent"].contains ((options.value? "check").getD "")
  let checks := ["c", "C", "check"].any options.has
  match files with
  | _ :: second :: _ =>
    if checks then fail call 2 ("extra operand " ++ Named.quoted second ++ " not allowed with -c")
  | _ => pure ()
  let mut contents := []
  let fs ← Act.look
  for file in files do
    if file ≠ "-" && !isThere fs file then
      fail call 2 ("cannot read: " ++ Named.clear file ++ ": " ++ match nodeAt fs file with
        | .error e => e.libraryPhrase
        | .ok _ => "")
  for file in orInput files do
    match ← contentOf file with
    | .error e => fail call 2 ("read failed: " ++ Named.clear file ++ ": " ++ e.libraryPhrase)
    | .ok text => contents := contents ++ [linesOf ending text.toList]
  if checks then
    match plan.disorder? 1 contents.flatten with
    | none => Act.exit 0
    | some (number, line) =>
      if !isQuiet then
        remark call ((orInput files).headD "-" ++ ":" ++ toString number ++ ": disorder: " ++ String.ofList line)
      Act.exit 1
  let sorted := if options.has "m" then plan.merge contents else plan.sort contents.flatten
  match options.value? "o" with
  | none => write call (ofLines ending sorted) 2
  | some path =>
    match ← Act.openAt targetDescriptor path .truncate with
    | some e => fail call 2 ("open failed: " ++ Named.clear path ++ ": " ++ e.libraryPhrase)
    | none =>
      match ← Act.write targetDescriptor (ofLines ending sorted) with
      | some e => fail call 2 ("write failed: " ++ Named.clear path ++ ": " ++ e.libraryPhrase)
      | none => return

end BatchJob.Machine.Programs
