import BatchJob.Machine.Programs.Basic

/-!
# Parts of lines

The program that passes on some of the bytes or fields of every line.
-/

namespace BatchJob.Machine.Programs.Cutting

/-- A range of places, counted from one; a range without an end goes up to the end of the line. -/
structure Range where
  first : Nat
  last : Option Nat
  deriving DecidableEq, Repr

namespace Range

/-- Whether a place is in a range. -/
def contains (range : Range) (place : Nat) : Bool :=
  range.first ≤ place && range.last.all (place ≤ ·)

/-- Ranges in order, where those that overlap have become one. -/
def merged (ranges : List Range) : List Range :=
  let sorted := ranges.mergeSort fun a b => a.first ≤ b.first
  (sorted.foldl (fun done range =>
    match done with
    | [] => [range]
    | former :: others =>
      if former.last.all (range.first ≤ ·) then
        let last := match former.last, range.last with
          | some a, some b => some (max a b)
          | _, _ => none
        { former with last } :: others
      else range :: done) []).reverse

/-- The ranges between ranges in order. -/
def complement (next : Nat) : List Range → List Range
  | [] => [⟨next, none⟩]
  | range :: rest =>
    let gap := if next < range.first then [⟨next, some (range.first - 1)⟩] else []
    match range.last with
    | some last => gap ++ complement (last + 1) rest
    | none => gap

end Range

/-- The words for what is selected. -/
structure Words where
  zero : String
  invalid : String
  large : String

/-- The words for fields, and those for bytes. -/
def fieldWords : Words :=
  ⟨"fields are numbered from 1", "invalid field value ", "field number "⟩
def byteWords : Words :=
  ⟨"byte/character positions are numbered from 1", "invalid byte/character position ", "byte/character offset "⟩

/-- The greatest place. -/
def greatest : Nat := UInt64.size - 2

/-- A place in a list. -/
def place (words : Words) (text : List Char) : Except String Nat :=
  if !text.all Char.isDigit then .error (words.invalid ++ Named.plain (String.ofList text))
  else
    let n := text.foldl (fun n c => 10 * n + (c.toNat - 48)) 0
    if greatest < n then .error (words.large ++ Named.plain (String.ofList text) ++ " is too large")
    else if n = 0 then .error words.zero
    else .ok n

/-- A range in a list. -/
def range (words : Words) (text : List Char) : Except String Range := do
  let first := text.takeWhile (· != '-')
  let last := text.drop (first.length + 1)
  if first.length = text.length then
    if text.isEmpty then throw words.zero
    let n ← place words text
    return ⟨n, some n⟩
  else if first.isEmpty && last.isEmpty then throw "invalid range with no endpoint: -"
  else
    let low ← if first.isEmpty then pure 1 else place words first
    if last.isEmpty then return ⟨low, none⟩
    let high ← place words last
    if high < low then throw "invalid decreasing range"
    return ⟨low, some high⟩

/-- The ranges in a list. -/
def ranges (words : Words) (text : String) : Except String (List Range) := do
  let parts := text.splitToList fun c => c == ',' || c == ' ' || c == '\t'
  return Range.merged (← parts.mapM fun part => range words part.toList)

/-- The characters of a line whose places are in ranges, with a text between those of two ranges. -/
def bytesOf (ranges : List Range) (between : String) (line : List Char) : List Char :=
  let selected := ranges.map fun range =>
    let rest := line.drop (range.first - 1)
    match range.last with
    | some last => rest.take (last + 1 - range.first)
    | none => rest
  between.toList.intercalate (selected.filter (!·.isEmpty))

/-- The fields of a line. -/
def fieldsOf (separator : Char) (line : List Char) : List (List Char) :=
  line.foldr (fun c fields =>
    match fields with
    | [] => [[c]]
    | field :: rest => if c = separator then [] :: field :: rest else (c :: field) :: rest) [[]]

/-- The fields of a line whose places are in ranges. -/
def selectedFields (ranges : List Range) (fields : List (List Char)) : List (List Char) :=
  (fields.zipIdx 1).filterMap fun (field, place) => if ranges.any (·.contains place) then some field else none

end Cutting

open Cutting in
/-- Passes on parts of every line. -/
def cut : Program := fun call => do
  let (options, files) ← takeOptions call
    [valued "b bytes", valued "c characters", valued "f fields", valued "d delimiter", flag "n",
      flag "s only-delimited", valued "output-delimiter", flag "complement", flag "z zero-terminated"]
  let lists := options.filter fun (name, _) => ["b", "c", "f"].contains name
  let (kind, list) ← match lists with
    | [] => misuse call 1 "you must specify a list of bytes, characters, or fields"
    | [one] => pure one
    | _ => misuse call 1 "only one list may be specified"
  let byFields := kind = "f"
  let separator ← match options.value? "d" with
    | none => pure '\t'
    | some text =>
      match text.toList with
      | [] => pure '\x00'
      | [c] => pure c
      | _ => misuse call 1 "the delimiter must be a single character"
  if !byFields && options.has "d" then
    misuse call 1 "an input delimiter may be specified only when operating on fields"
  if !byFields && options.has "s" then
    misuse call 1 "suppressing non-delimited lines makes sense\n\tonly when operating on fields"
  let ranges ← match ranges (if byFields then fieldWords else byteWords) list with
    | .ok ranges => pure (if options.has "complement" then Range.complement 1 ranges else ranges)
    | .error what => misuse call 1 what
  let ending := lineEnd options
  let lineOf (line : List Char) : Option (List Char) :=
    if byFields then
      if line.contains separator then
        let between := ((options.value? "output-delimiter").map String.toList).getD [separator]
        some (between.intercalate (selectedFields ranges (fieldsOf separator line)))
      else if options.has "s" then none
      else some line
    else some (bytesOf ranges ((options.value? "output-delimiter").getD "") line)
  let mut status := 0
  for file in orInput files do
    match ← contentOf file with
    | .error e =>
      remark call (Named.clear file ++ ": " ++ e.libraryPhrase)
      status := 1
    | .ok text => write call (ofLines ending ((linesOf ending text.toList).filterMap lineOf))
  Act.exit status

end BatchJob.Machine.Programs
