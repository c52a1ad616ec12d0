import BatchJob.Machine.Programs.Basic

/-!
# Translation of characters

The program that replaces, deletes and squeezes bytes. It names them by sets: characters, ranges, classes and
repetitions in a row.
-/

namespace BatchJob.Machine.Programs.Translation

/-- A part of a set. -/
inductive Item
  | character (c : Char)
  | kind (name : String)
  /-- A character a number of times, or as often as the other set needs it. -/
  | repetition (c : Char) (count : Option Nat)
  deriving DecidableEq, Repr

/-- A character in a set, and whether a backslash stands before it. -/
abbrev Marked := Char × Bool

/-- The characters of a set, where escapes have been replaced. The fuel is the length of the text at most. -/
def unescaped (fuel : Nat) : List Char → List Marked
  | [] => []
  | '\\' :: rest =>
    match fuel, rest with
    | 0, _ | _, [] => [('\\', false)]
    | fuel + 1, c :: after =>
      let isOctal (c : Char) : Bool := '0' ≤ c && c ≤ '7'
      if isOctal c then
        let digits := (rest.take 3).takeWhile isOctal
        let value (digits : List Char) : Nat := digits.foldl (fun n c => 8 * n + (c.toNat - 48)) 0
        let digits := if value digits < 256 then digits else digits.take 2
        (Char.ofNat (value digits), true) :: unescaped fuel (rest.drop digits.length)
      else
        let c := match c with
          | 'a' => '\x07' | 'b' => '\x08' | 'f' => '\x0c' | 'n' => '\n' | 'r' => '\r' | 't' => '\t' | 'v' => '\x0b'
          | c => c
        (c, true) :: unescaped fuel after
  | c :: rest =>
    match fuel with
    | 0 => []
    | fuel + 1 => (c, false) :: unescaped fuel rest

/-- The text of some characters. -/
def textOf (text : List Marked) : String :=
  String.ofList (text.map Prod.fst)

/-- The characters up to the first one of two in a row. -/
def upTo? (first : Char) : List Marked → Option (List Marked × List Marked)
  | [] => none
  | c :: rest =>
    if c = (first, false) && rest.head? = some (']', false) then some ([], rest.drop 1)
    else (upTo? first rest).map fun (inner, after) => (c :: inner, after)

/-- A count of repetitions. Digits after a zero are octal. -/
def count? (text : String) : Option Nat :=
  let base := if text.startsWith "0" then 8 else 10
  let digit (c : Char) : Bool := c.isDigit && c.toNat - 48 < base
  if text.toList.all digit then some (text.toList.foldl (fun n c => base * n + (c.toNat - 48)) 0) else none

/-- The parts of a set, or what is wrong with it. The fuel is its length at most. -/
def items (fuel : Nat) (text : List Marked) : Except String (List Item) :=
  match fuel, text with
  | 0, _ | _, [] => .ok []
  | fuel + 1, ('[', false) :: (':', false) :: rest =>
    match upTo? ':' rest with
    | some (name, rest) =>
      let name := textOf name
      if name.isEmpty then .error "missing character class name '[::]'"
      else if (Text.characterClass? name).isNone then .error ("invalid character class " ++ Named.plain name)
      else (items fuel rest).map (.kind name :: ·)
    | none => (items fuel ((':', true) :: rest)).map (.character '[' :: ·)
  | fuel + 1, ('[', false) :: ('=', false) :: rest =>
    match upTo? '=' rest with
    | some ([(c, _)], rest) => (items fuel rest).map (.character c :: ·)
    | some ([], _) => .error "missing equivalence class character '[==]'"
    | some (inner, _) => .error (textOf inner ++ ": equivalence class operand must be a single character")
    | none => (items fuel (('=', true) :: rest)).map (.character '[' :: ·)
  | fuel + 1, ('[', false) :: (c, isEscaped) :: ('*', false) :: rest =>
    let digits := rest.takeWhile (· != (']', false))
    if digits.length = rest.length then
      (items fuel ((c, isEscaped) :: ('*', false) :: rest)).map (.character '[' :: ·)
    else
      match count? (textOf digits) with
      | none => .error ("invalid repeat count " ++ Named.plain (textOf digits) ++ " in [c*n] construct")
      | some n =>
        (items fuel (rest.drop (digits.length + 1))).map (.repetition c (if n = 0 then none else some n) :: ·)
  | fuel + 1, (first, _) :: ('-', false) :: (last, _) :: rest =>
    if last < first then
      .error ("range-endpoints of '" ++ String.singleton first ++ "-" ++ String.singleton last ++
        "' are in reverse collating sequence order")
    else
      let range := (List.range (last.toNat + 1 - first.toNat)).map fun n => Char.ofNat (first.toNat + n)
      (items fuel rest).map (range.map .character ++ ·)
  | fuel + 1, (c, _) :: rest => (items fuel rest).map (.character c :: ·)

/-- All bytes. -/
def allBytes : List Char :=
  (List.range 256).map Char.ofNat

/-- The characters of a part. -/
def Item.characters : Item → List Char
  | .character c => [c]
  | .kind name => allBytes.filter (Text.isInClass name)
  | .repetition c n => List.replicate (n.getD 0) c

/-- The characters of a set. -/
def expand (set : List Item) : List Char :=
  set.flatMap Item.characters

/-- Whether a part is a class of letters of one case. -/
def Item.isCase : Item → Bool
  | .kind name => name == "upper" || name == "lower"
  | _ => false

/-- Whether a part is a class. -/
def Item.isClass : Item → Bool
  | .kind _ => true
  | _ => false

/-- Whether a part is repeated as often as it has to be. -/
def Item.isOpen : Item → Bool
  | .repetition _ none => true
  | _ => false

/-- The places at which classes of letters of one case begin. -/
def casePlaces (start : Nat) : List Item → List Nat
  | [] => []
  | item :: rest =>
    let others := casePlaces (start + item.characters.length) rest
    if item.isCase then start :: others else others

/-- The second set with its open repetition as long as it has to be. -/
def filled (length : Nat) (set : List Item) : List Item :=
  let missing := length - (expand set).length
  set.flatMap fun item =>
    match item with
    | .repetition c none => if missing = 0 then [] else [.repetition c (some missing)]
    | item => [item]

/-- What is wrong with the sets of a translation. -/
def fault? (complements truncates : Bool) (source target : List Item) : Option String :=
  let domain := if complements then (allBytes.filter fun c => !(expand source).contains c) else expand source
  let target := filled domain.length target
  let length := (expand target).length
  let isShort := length < domain.length && !truncates
  if target.any fun item => item.isClass && !item.isCase then
    some "when translating, the only character classes that may appear in\nstring2 are 'upper' and 'lower'"
  else if complements && source.any Item.isClass &&
      (length ≠ domain.length || (expand target).eraseDups.length ≠ 1) then
    some ("when translating with complemented character classes,\n" ++
      "string2 must map all characters in the domain to one")
  else if !complements && (casePlaces 0 target).any fun place => !(casePlaces 0 source).contains place then
    some "misaligned [:upper:] and/or [:lower:] construct"
  else if isShort && length = 0 then some "when not truncating set1, string2 must be non-empty"
  else if isShort && (target.getLast?.any Item.isClass) then
    some ("when translating with string1 longer than string2,\n" ++
      "the latter string must not end with a character class")
  else none

/-- What every byte becomes. -/
def table (source target : List Char) : Array Char :=
  let pairs := source.mapIdx fun i c => (c, (target[i]?).getD (target.getLastD c))
  pairs.foldl (fun table (c, d) => table.setIfInBounds c.toNat d) allBytes.toArray

/-- What is done to bytes, in this order. -/
structure Plan where
  isDeleted : Char → Bool := fun _ => false
  becomes : Char → Char := id
  isSqueezed : Char → Bool := fun _ => false

/-- Carries out a plan; the last byte that was left is noted. -/
def Plan.turn (plan : Plan) (noted : List Nat) (bytes : Bytes) : List Nat × Bytes :=
  let (last, done) := bytes.foldl (fun (last, done) b =>
    let c := Text.octet b
    if plan.isDeleted c then (last, done)
    else
      let d := plan.becomes c
      if plan.isSqueezed d && last = [d.toNat] then (last, done) else ([d.toNat], UInt8.ofNat d.toNat :: done))
    (noted, [])
  (last, done.reverse)

/-- Whether characters are in a set, looked up in a table. -/
def member (set : List Char) : Char → Bool :=
  let table := set.foldl (fun (table : Array Bool) c => table.setIfInBounds c.toNat true) (Array.replicate 256 false)
  fun c => (table[c.toNat]?).getD false

end Translation

open Translation in
/-- Replaces, deletes or squeezes bytes. -/
def tr : Program := fun call => do
  let (options, operands) ← takeOptions call
    [flag "c C complement", flag "d delete", flag "s squeeze-repeats", flag "t truncate-set1"] 1 false
  let (deletes, squeezes) := (options.has "d", options.has "s")
  let least := if deletes = squeezes then 2 else 1
  let most := if deletes && !squeezes then 1 else 2
  let explained (text explanation : String) : Act Unit := do
    remark call text
    Act.complain explanation
    Act.complain (hint call)
    Act.exit 1
  if operands.isEmpty then misuse call 1 "missing operand"
  if operands.length < least then
    explained ("missing operand after " ++ Named.plain (operands.getLastD ""))
      (if squeezes then "Two strings must be given when both deleting and squeezing repeats."
        else "Two strings must be given when translating.")
  match operands[most]? with
  | some extra =>
    let text := "extra operand " ++ Named.plain extra
    if operands.length = 2 then
      explained text "Only one string may be given when deleting without squeezing repeats."
    else misuse call 1 text
  | none => pure ()
  let set (text : String) : Act (List Item) := do
    if (text.toList.reverse.takeWhile (· == '\\')).length % 2 = 1 then
      remark call "warning: an unescaped backslash at end of string is not portable"
    match items text.length (unescaped text.length text.toList) with
    | .ok items => return items
    | .error what => fail call 1 what
  let source ← set (operands.headD "")
  let target ← match operands[1]? with
    | some text => set text
    | none => pure []
  if source.any Item.isOpen then
    fail call 1 "the [c*] repeat construct may not appear in string1"
  if 1 < (target.filter Item.isOpen).length then
    fail call 1 "only one [c*] repeat construct may appear in string2"
  let own := expand source
  let own := if options.has "c" then (let isOwn := member own; allBytes.filter (!isOwn ·)) else own
  let translates := !deletes && operands.length = 2
  if translates then
    match fault? (options.has "c") (options.has "t") source target with
    | some what => fail call 1 what
    | none => pure ()
  let others := expand (filled own.length target)
  let becomes := table (if options.has "t" then own.take others.length else own) others
  let plan : Plan :=
    { isDeleted := if deletes then member own else fun _ => false
      becomes := if translates then fun c => (becomes[c.toNat]?).getD c else id
      isSqueezed := if squeezes then member (if operands.length = 2 then others else own) else fun _ => false }
  match ← Act.convert Task.standardInput Task.standardOutput [] plan.turn with
  | (some (.read e), _) => fail call 1 ("read error: " ++ e.libraryPhrase)
  | (some (.write e), _) => fail call 1 ("write error: " ++ e.libraryPhrase)
  | (none, _) => return

end BatchJob.Machine.Programs
