import BatchJob.FileSystem.Basic
import BatchJob.Text.CharacterClass
import BatchJob.Text.Octets

/-!
# Patterns

Patterns for names and texts: a star stands for any text, a question mark for any character, brackets for one of
the characters in them, and a group after a sign for its choices. Quoted characters stand for themselves. A pattern
that has slashes in it finds the paths whose components match its own.
-/

namespace BatchJob.Machine

/-- A character, and whether it has a meaning in patterns because it stands outside quotes. -/
abbrev Marked := Char × Bool

/-- Characters that stand between brackets. -/
inductive CharacterRange
  | between (first last : Char)
  | inClass (name : String)
  deriving DecidableEq, Repr

/-- A part of a pattern. -/
inductive PatternPart
  | exactly (c : Char)
  | anyOne
  | anyText
  | oneOf (isNegated : Bool) (ranges : List CharacterRange)
  /-- One of some choices, as often as the sign before them says. -/
  | group (sign : Char) (choices : List (List PatternPart))

/-- A pattern. -/
abbrev Pattern := List PatternPart

namespace Pattern

/-! ## Reading -/

/-- Whether a marked character has a meaning in patterns. -/
def isSpecial : Marked → Bool
  | ('*', true) | ('?', true) | ('[', true) => true
  | _ => false

/-- What stands between a colon and a colon with a bracket after it, and the text after both. -/
def takeClass? : List Marked → Option (List Char × List Marked)
  | (':', true) :: (']', true) :: rest => some ([], rest)
  | (c, _) :: rest =>
    if c.isAlpha then (takeClass? rest).map fun (name, after) => (c :: name, after) else none
  | [] => none

/-- The ranges up to the bracket that closes them, and the text after it. A bracket in the first place closes
nothing. The fuel is the length of the text at most. -/
def takeRanges? (fuel : Nat) (isFirst : Bool) (text : List Marked) : Option (List CharacterRange × List Marked) :=
  match fuel with
  | 0 => none
  | fuel + 1 =>
    let goOn (range : CharacterRange) (rest : List Marked) : Option (List CharacterRange × List Marked) :=
      (takeRanges? fuel false rest).map fun (ranges, after) => (range :: ranges, after)
    match text with
    | [] => none
    | (c, isActive) :: rest =>
      if c = ']' && isActive && !isFirst then some ([], rest)
      else
        let inner? := match c, isActive, rest with
          | '[', true, (':', true) :: inner => takeClass? inner
          | _, _, _ => none
        match inner?, rest with
        | some (name, after), _ => goOn (.inClass (String.ofList name)) after
        | none, ('-', true) :: (last, lastActive) :: after =>
          if last = ']' && lastActive then goOn (.between c c) rest else goOn (.between c last) after
        | none, _ => goOn (.between c c) rest

/-- The choices of a group up to the parenthesis that closes it, and the text after it; `current` is the present
choice from its end. -/
def takeChoices? (depth : Nat) (current : List Marked) :
    List Marked → Option (List (List Marked) × List Marked)
  | [] => none
  | (c, isActive) :: rest =>
    match c, isActive, depth with
    | ')', true, 0 => some ([current.reverse], rest)
    | '|', true, 0 => (takeChoices? 0 [] rest).map fun (choices, after) => (current.reverse :: choices, after)
    | ')', true, depth + 1 => takeChoices? depth ((c, isActive) :: current) rest
    | '(', true, _ => takeChoices? (depth + 1) ((c, isActive) :: current) rest
    | _, _, _ => takeChoices? depth ((c, isActive) :: current) rest

/-- The pattern that marked characters make, with groups or without. The fuel is their number at most. -/
def read (hasGroups : Bool) (fuel : Nat) (text : List Marked) : Pattern :=
  match fuel, text with
  | 0, _ | _, [] => []
  | fuel + 1, (c, isActive) :: rest =>
    let group? : Option (List (List Marked) × List Marked) :=
      match hasGroups && isActive && "?*+@!".toList.contains c, rest with
      | true, ('(', true) :: inner => takeChoices? 0 [] inner
      | _, _ => none
    match group?, c, isActive with
    | some (choices, after), _, _ =>
      .group c (choices.map (read hasGroups fuel)) :: read hasGroups fuel after
    | none, '*', true => .anyText :: read hasGroups fuel rest
    | none, '?', true => .anyOne :: read hasGroups fuel rest
    | none, '[', true =>
      let isNegated := match rest with
        | ('!', true) :: _ | ('^', true) :: _ => true
        | _ => false
      let inner := if isNegated then rest.drop 1 else rest
      match takeRanges? (inner.length + 1) true inner with
      | none => .exactly '[' :: read hasGroups fuel rest
      | some (ranges, after) => .oneOf isNegated ranges :: read hasGroups fuel after
    | none, _, _ => .exactly c :: read hasGroups fuel rest

/-- The pattern that marked characters make. -/
def ofMarked (text : List Marked) : Pattern :=
  read true text.length text

/-! ## Matching -/

/-- Whether characters between brackets include one. -/
def CharacterRange.holds (c : Char) : CharacterRange → Bool
  | .between first last => first ≤ c && c ≤ last
  | .inClass name => Text.isInClass name c

/-- All ends of a text, the whole first. -/
def tails : List Char → List (List Char)
  | [] => [[]]
  | c :: rest => (c :: rest) :: tails rest

/-- Adds ends of one text to others, each once, the longer ones first. -/
def union (a b : List (List Char)) : List (List Char) :=
  match a, b with
  | [], _ => b
  | _, [] => a
  | x :: xs, y :: ys =>
    if x.length = y.length then x :: union xs ys
    else if y.length < x.length then x :: union xs (y :: ys)
    else y :: union (x :: xs) ys
termination_by a.length + b.length

/-- What is left of each of some texts after one character. -/
def afterOne (p : Char → Bool) (texts : List (List Char)) : List (List Char) :=
  texts.filterMap fun
    | c :: rest => if p c then some rest else none
    | [] => none

/-- What some step leaves of texts when it is done again and again. The fuel is the number of times at most. -/
def again (step : List (List Char) → List (List Char)) (fuel : Nat) (texts : List (List Char)) :
    List (List Char) :=
  match fuel with
  | 0 => texts
  | fuel + 1 => if texts.isEmpty then texts else union texts (again step fuel (step texts))

mutual

/-- What is left of texts, the ends of one text, after a part of a pattern. -/
def afterPart (texts : List (List Char)) : PatternPart → List (List Char)
  | .exactly c => afterOne (· == c) texts
  | .anyOne => afterOne (fun _ => true) texts
  | .anyText => ((texts.head?).map tails).getD []
  | .oneOf isNegated ranges => afterOne (fun c => isNegated != ranges.any (CharacterRange.holds c)) texts
  | .group sign choices =>
    let length := ((texts.head?).map List.length).getD 0
    let step (texts : List (List Char)) : List (List Char) := afterAny texts choices
    match sign with
    | '?' => union texts (step texts)
    | '*' => again step length texts
    | '+' => again step length (step texts)
    | '@' => step texts
    | _ =>
      texts.foldl (fun found text =>
        let matched := step [text]
        union found ((tails text).filter fun left => !matched.any (·.length = left.length))) []

/-- What is left of texts after all parts of a pattern. -/
def afterAll (texts : List (List Char)) : List PatternPart → List (List Char)
  | [] => texts
  | part :: rest => afterAll (afterPart texts part) rest

/-- What is left of texts after one of some patterns. -/
def afterAny (texts : List (List Char)) : List (List PatternPart) → List (List Char)
  | [] => []
  | pattern :: rest => union (afterAll texts pattern) (afterAny texts rest)

end

/-- Whether a pattern stands for a text. -/
def accepts (pattern : Pattern) (text : List Char) : Bool :=
  (afterAll [text] pattern).any List.isEmpty

/-- Takes the shortest or the longest start that a pattern stands for away from a text. -/
def dropStart (isLongest : Bool) (pattern : Pattern) (text : List Char) : List Char :=
  let left := afterAll [text] pattern
  ((if isLongest then left.getLast? else left.head?)).getD text

mutual

/-- A part for the texts from their ends. -/
def reversedPart : PatternPart → PatternPart
  | .group sign choices => .group sign (reversedChoices choices)
  | part => part

/-- The pattern for the texts from their ends. -/
def reversed : List PatternPart → List PatternPart
  | [] => []
  | part :: rest => reversed rest ++ [reversedPart part]

/-- The patterns for the texts from their ends. -/
def reversedChoices : List (List PatternPart) → List (List PatternPart)
  | [] => []
  | choice :: rest => reversed choice :: reversedChoices rest

end

/-- Takes the shortest or the longest end that a pattern stands for away from a text. -/
def dropEnd (isLongest : Bool) (pattern : Pattern) (text : List Char) : List Char :=
  (dropStart isLongest (reversed pattern) text.reverse).reverse

/-- What is left after the longest start of a text that a pattern stands for, if there is any. -/
def longestStart? (pattern : Pattern) (text : List Char) : Option (List Char) :=
  (afterAll [text] pattern).getLast?

/-- A text with what a pattern stands for replaced, the first time or every time. The fuel is the length of the
text and one more. -/
def replace (everywhere : Bool) (pattern : Pattern) (replacement : List Char) (fuel : Nat) (text : List Char) :
    List Char :=
  match fuel with
  | 0 => text
  | fuel + 1 =>
    match longestStart? pattern text, text with
    | some left, c :: rest =>
      if left.length = text.length then c :: replace everywhere pattern replacement fuel rest
      else replacement ++ if everywhere then replace everywhere pattern replacement fuel left else left
    | none, c :: rest => c :: replace everywhere pattern replacement fuel rest
    | _, [] => []

/-! ## Paths -/

/-- The pieces of marked characters between their slashes. -/
def components : List Marked → List (List Marked)
  | [] => [[]]
  | (c, isActive) :: rest =>
    match components rest with
    | [] => [[(c, isActive)]]
    | piece :: pieces => if c = '/' then [] :: piece :: pieces else ((c, isActive) :: piece) :: pieces

/-- How names that start with a dot are found. -/
structure DotRule where
  /-- Whether they are found like all others. -/
  areFound : Bool := false
  /-- Whether a directory itself and the one around it are found by their dots. -/
  hasDirectories : Bool := true

/-- Whether a pattern for a name stands for it. A name that starts with a dot has to be named so. -/
def acceptsName (rule : DotRule) (piece : List Marked) (name : String) : Bool :=
  (rule.areFound || name.toList.head? != some '.' || (piece.head?.map Prod.fst) == some '.') &&
    (ofMarked piece).accepts name.toList

/-- The names in a directory that a piece stands for. -/
def namesFor (fs : FileSystem) (rule : DotRule) (start : String) (piece : List Marked) : List String :=
  let names := (fs.namesIn (if start.isEmpty then "." else Text.ofOctets start)).map Text.toOctets
  let dots := if rule.hasDirectories && (piece.head?.map Prod.fst) == some '.' then [".", ".."] else []
  (dots ++ names).filter (acceptsName rule piece)

/-- The paths below `start` whose components match. -/
def pathsFrom (fs : FileSystem) (rule : DotRule) (start : String) : List (List Marked) → List String
  | [] => []
  | [piece] =>
    if piece.any isSpecial then (namesFor fs rule start piece).map (start ++ ·)
    else
      let path := start ++ String.ofList (piece.map Prod.fst)
      if (fs.lookup (Text.ofOctets path)).isOk then [path] else []
  | piece :: rest =>
    let names :=
      if piece.any isSpecial then namesFor fs rule start piece else [String.ofList (piece.map Prod.fst)]
    names.flatMap fun name => pathsFrom fs rule (start ++ name ++ "/") rest

/-- The paths that a pattern finds, in order. -/
def paths (fs : FileSystem) (rule : DotRule) (text : List Marked) : List String :=
  (pathsFrom fs rule "" (components text)).mergeSort fun a b => a ≤ b

end Pattern

end BatchJob.Machine
