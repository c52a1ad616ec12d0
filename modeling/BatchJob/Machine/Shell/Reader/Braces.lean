import BatchJob.Machine.Shell.Script

/-!
# Words in braces

In the extended dialect, braces around words with commas between them stand for one word after the other, and
braces around two ends of a range for all that lies between them. What stands before and after the braces is
part of each of the words.
-/

namespace BatchJob.Machine.Script.Braces

/-- A part of a word, cut so that every character outside quotes is a part of its own. -/
abbrev Cut := List Piece

/-- Cuts a word into its characters and its other pieces. -/
def cut (word : Word) : Cut :=
  word.flatMap fun
    | .text false text => text.map fun c => .text false [c]
    | piece => [piece]

/-- Joins neighbouring texts outside quotes. -/
def join : Cut → Word
  | [] => []
  | piece :: rest =>
    match piece, join rest with
    | .text false a, .text false b :: others => .text false (a ++ b) :: others
    | piece, others => piece :: others

/-- The character that a piece is, if it is one outside quotes. -/
def char? : Piece → Option Char
  | .text false [c] => some c
  | _ => none

/-- The parts between the commas of a pair of braces, up to its end, and what comes after it; `depth` braces are
open in between, and `current` is the present part from its end. -/
def parts? (depth : Nat) (current : Cut) : Cut → Option (List Cut × Cut)
  | [] => none
  | piece :: rest =>
    match char? piece, depth with
    | some '\x7b', _ => parts? (depth + 1) (piece :: current) rest
    | some '\x7d', 0 => some ([current.reverse], rest)
    | some '\x7d', depth + 1 => parts? depth (piece :: current) rest
    | some ',', 0 => (parts? 0 [] rest).map fun (parts, after) => (current.reverse :: parts, after)
    | _, _ => parts? depth (piece :: current) rest

/-- The text of a part that is made of characters only. -/
def text? (part : Cut) : Option (List Char) :=
  part.mapM char?

/-- The texts between the pairs of dots in a text. -/
def splitDots (text : List Char) : List (List Char) :=
  (String.ofList text).splitOn ".." |>.map String.toList

/-- The numbers from one to another in steps. -/
def numbers (first last step : Int) : List Int :=
  let step := if step = 0 then 1 else step.natAbs
  let count := (last - first).natAbs / step + 1
  (List.range count).map fun (i : Nat) => if first ≤ last then first + i * step else first - i * step

/-- A number with zeros before it, so that it is as wide as asked for. -/
def padded (width : Nat) (n : Int) : String :=
  let sign := if n < 0 then "-" else ""
  let digits := toString n.natAbs
  sign ++ String.ofList (List.replicate (width - sign.length - digits.length) '0') ++ digits

/-- What lies between the two ends of a range. -/
def range? (text : List Char) : Option (List String) :=
  let number? (text : List Char) : Option Int :=
    (String.ofList (if text.head? == some '+' then text.drop 1 else text)).toInt?
  let isPadded (text : List Char) : Bool :=
    let digits := text.dropWhile fun c => c == '-' || c == '+'
    1 < digits.length && digits.head? == some '0'
  let ends (first last : List Char) (step : Int) : Option (List String) :=
    match number? first, number? last, first, last with
    | some a, some b, _, _ =>
      let width := if isPadded first || isPadded last then max first.length last.length else 0
      some ((numbers a b step).map (padded width))
    | _, _, [a], [b] =>
      if a.isAlpha && b.isAlpha then
        some ((numbers a.toNat b.toNat step).map fun n => String.singleton (Char.ofNat n.toNat))
      else none
    | _, _, _, _ => none
  match splitDots text with
  | [first, last] => ends first last 1
  | [first, last, step] => (number? step).bind (ends first last)
  | _ => none

/-- The words that the parts of a word stand for. The fuel is the number of parts at most. -/
def expand (fuel : Nat) (word : Cut) : List Cut :=
  match fuel, word with
  | 0, _ | _, [] => [word]
  | fuel + 1, piece :: rest =>
    let others (front : Cut) (rest : Cut) : List Cut := (expand fuel rest).map (front ++ ·)
    match char? piece with
    | some '\x7b' =>
      match parts? 0 [] rest with
      | some ([part], after) =>
        match (text? part).bind range? with
        | some texts =>
          texts.flatMap fun text => others (text.toList.map fun c => .text false [c]) after
        | none => others [piece] rest
      | some (parts, after) =>
        let choices := parts.flatMap (expand fuel)
        choices.flatMap fun choice => others choice after
      | none => others [piece] rest
    | _ => others [piece] rest

/-- The words that a word stands for. -/
def words (word : Word) : List Word :=
  let isBrace (piece : Piece) : Bool :=
    match piece with
    | .text false text => text.contains '\x7b'
    | _ => false
  if word.any isBrace then
    let parts := cut word
    (expand (parts.length + 1) parts).map join |>.filter (!·.isEmpty)
  else [word]

end BatchJob.Machine.Script.Braces
