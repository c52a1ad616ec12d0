import BatchJob.Machine.Shell.Assignment
import BatchJob.Machine.Shell.Condition
import BatchJob.Machine.Shell.Regex

/-!
# Conditions in double brackets

What a shell makes of a condition in double brackets: its words are not split, the right sides of comparisons are
patterns or regular expressions, and numbers are arithmetic.
-/

namespace BatchJob.Machine.Shell

/-- The variable that keeps what the groups of a regular expression have matched. -/
def matchVariable : String := "BASH_REMATCH"

/-- Whether a regular expression that a word is matches a text. -/
def matchesRegex (text : String) (word : Word) : Deed Bool := do
  match Regex.ofMarked? (Glyph.markedOf (← expandWord false word)) with
  | none =>
    Deed.done 2
    return false
  | some (regex, groups) =>
    let kept := regex.firstMatch? groups text.toList
    let items := (kept.getD []).mapIdx fun i part => (i, String.ofList part)
    setContent matchVariable (.indexed items)
    return kept.isSome

/-- What is said of a single sign and its operand. -/
def assessUnary (sign operand : String) : Deed Bool := do
  let s ← get
  if sign = "-v" then return (s.content? operand).isSome
  else if sign = "-o" then return s.isOn operand
  else
    match Condition.unary (← Act.look) sign operand with
    | .ok holds => return holds
    | .error _ => return false

/-- Whether a comparison of two words holds. -/
def assessBinary (sign : String) (first second : Word) : Deed Bool := do
  let text ← textOfWord first
  match Condition.comparison? sign with
  | some holds =>
    let other ← textOfWord second
    return holds (← arithmetic text) (← arithmetic other)
  | none =>
    if sign = "=~" then matchesRegex text second
    else if sign = "=" || sign = "==" then return (← patternOfWord second).accepts text.toList
    else if sign = "!=" then return !(← patternOfWord second).accepts text.toList
    else
      let other ← textOfWord second
      if sign = "<" then return text < other
      else if sign = ">" then return other < text
      else
        match Condition.binary (← Act.look) sign text other with
        | .ok holds => return holds
        | .error _ => return false

/-- Whether a condition holds. -/
def assess : Test → Deed Bool
  | .unary sign operand => do assessUnary sign (← textOfWord operand)
  | .binary sign first second => assessBinary sign first second
  | .negated condition => do return !(← assess condition)
  | .both first second => do
    if ← assess first then assess second else return false
  | .either first second => do
    if ← assess first then return true else assess second

end BatchJob.Machine.Shell
