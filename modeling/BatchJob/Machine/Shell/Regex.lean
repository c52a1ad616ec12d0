import BatchJob.Machine.Shell.Pattern

/-!
# Regular expressions

The expressions that a condition compares texts with: alternatives, repetitions, groups, sets of characters and
anchors. The first place of a text where an expression matches counts, and there the longest match. Quoted characters
stand for themselves.
-/

namespace BatchJob.Machine

/-- A regular expression. -/
inductive Regex
  | nothing
  | anyOne
  | exactly (c : Char)
  | oneOf (isNegated : Bool) (ranges : List CharacterRange)
  | atStart
  | atEnd
  /-- What matches is kept under a number. -/
  | group (number : Nat) (inner : Regex)
  | both (first second : Regex)
  | either (first second : Regex)
  | repeated (inner : Regex) (least : Nat) (most : Option Nat)
  deriving Repr

namespace Regex

/-! ## Reading -/

/-- Two numbers between braces, the second one optional, and the text after them. -/
def takeBounds? (text : List Marked) : Option (Nat × Option Nat × List Marked) :=
  let plain := text.takeWhile fun (c, _) => c.isDigit || c == ','
  let numbers := ((String.ofList (plain.map Prod.fst)).splitOn ",").map String.toNat?
  match text.drop plain.length, numbers with
  | ('\x7d', true) :: rest, [some n] => some (n, some n, rest)
  | ('\x7d', true) :: rest, [some n, none] => some (n, none, rest)
  | ('\x7d', true) :: rest, [some n, some m] => if n ≤ m then some (n, some m, rest) else none
  | _, _ => none

/-- Puts the signs for repetitions at the front of a text around an expression. The fuel is the length of the text at
most. -/
def withSigns (fuel : Nat) (inner : Regex) (text : List Marked) : Regex × List Marked :=
  match fuel, text with
  | fuel + 1, ('*', true) :: rest => withSigns fuel (.repeated inner 0 none) rest
  | fuel + 1, ('+', true) :: rest => withSigns fuel (.repeated inner 1 none) rest
  | fuel + 1, ('?', true) :: rest => withSigns fuel (.repeated inner 0 (some 1)) rest
  | fuel + 1, ('\x7b', true) :: rest =>
    match takeBounds? rest with
    | some (least, most, rest) => withSigns fuel (.repeated inner least most) rest
    | none => (inner, text)
  | _, _ => (inner, text)

mutual

/-- The alternatives at the front of a text: the expression, how many groups there are with it, and the text after
it. The fuel bounds the depth. -/
def takeAlternatives? (fuel groups : Nat) (text : List Marked) : Option (Regex × Nat × List Marked) :=
  match fuel with
  | 0 => none
  | fuel + 1 => do
    let (first, groups, rest) ← takeSequence? fuel groups .nothing text
    match rest with
    | ('|', true) :: rest =>
      let (second, groups, rest) ← takeAlternatives? fuel groups rest
      return (.either first second, groups, rest)
    | _ => return (first, groups, rest)

/-- The sequence at the front of a text, after what has been read of it. -/
def takeSequence? (fuel groups : Nat) (before : Regex) (text : List Marked) : Option (Regex × Nat × List Marked) :=
  match fuel with
  | 0 => none
  | fuel + 1 =>
    match text with
    | [] | ('|', true) :: _ | (')', true) :: _ => some (before, groups, text)
    | (c, isActive) :: rest => do
      let (one, groups, rest) ← takeOne? fuel groups c isActive rest
      let (one, rest) := withSigns rest.length one rest
      takeSequence? fuel groups (match before with | .nothing => one | before => .both before one) rest

/-- The expression that a character begins. -/
def takeOne? (fuel groups : Nat) (c : Char) (isActive : Bool) (rest : List Marked) :
    Option (Regex × Nat × List Marked) :=
  match fuel with
  | 0 => none
  | fuel + 1 =>
    if !isActive then some (.exactly c, groups, rest)
    else
      match c, rest with
      | '.', _ => some (.anyOne, groups, rest)
      | '^', _ => some (.atStart, groups, rest)
      | '$', _ => some (.atEnd, groups, rest)
      | '\\', (d, _) :: rest => some (.exactly d, groups, rest)
      | '(', _ =>
        match takeAlternatives? fuel (groups + 1) rest with
        | some (inner, count, (')', true) :: rest) => some (.group (groups + 1) inner, count, rest)
        | _ => none
      | '[', _ =>
        let isNegated := rest.head? == some ('^', true)
        let inner := if isNegated then rest.drop 1 else rest
        (Pattern.takeRanges? (inner.length + 1) true inner).map fun (ranges, rest) =>
          (.oneOf isNegated ranges, groups, rest)
      | '*', _ | '+', _ | '?', _ => none
      | c, _ => some (.exactly c, groups, rest)

end

/-- The expression that marked characters make, and the number of its groups. -/
def ofMarked? (text : List Marked) : Option (Regex × Nat) :=
  match takeAlternatives? (4 * text.length + 4) 0 text with
  | some (regex, groups, []) => some (regex, groups)
  | _ => none

/-! ## Matching -/

/-- What groups have matched, the last match of a group first. -/
abbrev Kept := List (Nat × List Char)

/-- A match at the front of a text that is a part of a text of some length, if what is left can go on. The fuel
bounds the steps in a row. -/
def matchFrom (whole fuel : Nat) (regex : Regex) (text : List Char) (kept : Kept)
    (goOn : List Char → Kept → Option Kept) : Option Kept :=
  match fuel with
  | 0 => none
  | fuel + 1 =>
    match regex, text with
    | .nothing, _ => goOn text kept
    | .anyOne, _ :: rest => goOn rest kept
    | .exactly c, d :: rest => if c = d then goOn rest kept else none
    | .oneOf isNegated ranges, c :: rest =>
      if ranges.any (Pattern.CharacterRange.holds c) != isNegated then goOn rest kept else none
    | .anyOne, [] | .exactly _, [] | .oneOf .., [] => none
    | .atStart, _ => if text.length = whole then goOn text kept else none
    | .atEnd, _ => if text.isEmpty then goOn text kept else none
    | .group number inner, _ =>
      matchFrom whole fuel inner text kept fun rest kept =>
        goOn rest ((number, text.take (text.length - rest.length)) :: kept)
    | .both first second, _ =>
      matchFrom whole fuel first text kept fun rest kept => matchFrom whole fuel second rest kept goOn
    | .either first second, _ =>
      (matchFrom whole fuel first text kept goOn).orElse fun _ => matchFrom whole fuel second text kept goOn
    | .repeated inner least most, _ =>
      let once : Option Kept :=
        if most = some 0 then none
        else
          matchFrom whole fuel inner text kept fun rest kept =>
            if least = 0 && rest.length = text.length then none
            else matchFrom whole fuel (.repeated inner (least - 1) (most.map (· - 1))) rest kept goOn
      once.orElse fun _ => if least = 0 then goOn text kept else none

/-- The size of an expression. -/
def size : Regex → Nat
  | .group _ inner => inner.size + 1
  | .both first second | .either first second => first.size + second.size + 1
  | .repeated inner least _ => inner.size + least + 1
  | _ => 1

/-- The longest match of an expression in a text at its first place, and what the groups have matched in it; a group
that took no part has matched nothing. -/
def firstMatch? (regex : Regex) (groups : Nat) (text : List Char) : Option (List (List Char)) :=
  let whole := text.length
  let fuel := (whole + 2) * (regex.size + 2) * 2
  (List.range (whole + 1)).findSome? fun start =>
    let rest := text.drop start
    let endsAt (length : Nat) : Option Kept :=
      matchFrom whole fuel regex rest [] fun left kept => if left.length = rest.length - length then some kept else none
    match matchFrom whole fuel regex rest [] fun _ kept => some kept with
    | none => none
    | some _ =>
      (List.range (rest.length + 1)).reverse.findSome? fun length =>
        (endsAt length).map fun kept =>
          rest.take length :: (List.range groups).map fun i => (kept.lookup (i + 1)).getD []

end Regex

end BatchJob.Machine
