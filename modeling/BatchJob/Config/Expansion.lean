import BatchJob.Text.Alphanumeric
import BatchJob.Text.Blank

/-!
# Expanding a path

A path in the configuration may name environment variables, as `$NAME` or `${NAME}`, the latter with a
default after `:-`, and may start with a tilde for the home directory. Variables come first. What a
variable inserts is not expanded again, and a tilde counts only where the path itself starts with one.
-/

namespace BatchJob

/-- The variables of the supervisor's own environment. -/
structure Variables where
  pairs : List (String × String)
  deriving DecidableEq, Repr

namespace Variables

/-- Whether a name can be that of a variable. -/
def isName (name : String) : Bool :=
  !name.isEmpty && name.toList.all fun c => c != '=' && c != '\x00'

/-- The value of a variable that is set. -/
def get? (vars : Variables) (name : String) : Option String :=
  if isName name then vars.pairs.lookup name else none

/-- The home directory: that of the variables, or the administrator's where they give none. -/
def home (vars : Variables) : String :=
  match vars.get? "HOME" with
  | some path => if path.isEmpty then "/root" else path
  | none => "/root"

end Variables

namespace Expansion

/-- Whether a character may stand in the name of a variable without braces. -/
def isNameChar (c : Char) : Bool :=
  c == '_' || Text.isAlphanumeric c

/-- The part of a text before the first `:-` and the part after it; the second part is absent when there
is none. -/
def splitAtDefault : List Char → List Char × Option (List Char)
  | [] => ([], none)
  | ':' :: '-' :: rest => ([], some rest)
  | c :: rest =>
    let (before, after) := splitAtDefault rest
    (c :: before, after)

/-- The name of a variable and its default, as they stand between braces. A default needs a name before
it; otherwise everything is the name. -/
def nameAndDefault (inside : List Char) : List Char × Option (List Char) :=
  match splitAtDefault inside with
  | ([], some _) => (inside, none)
  | parts => parts

/-- The value of a variable, or the default if it is not set; without either, its name is the error. -/
def valueOf (lookup : String → Option String) (name : List Char) (default : Option (List Char)) :
    Except String (List Char) :=
  match lookup (String.ofList name), default with
  | some value, _ => .ok value.toList
  | none, some default => .ok default
  | none, none => .error (String.ofList name)

theorem length_dropWhile_le (p : Char → Bool) (text : List Char) :
    (text.dropWhile p).length ≤ text.length := by
  induction text with
  | nil => exact Nat.le_refl 0
  | cons c rest ih =>
    by_cases h : p c
    · simpa [List.dropWhile_cons, h] using Nat.le_succ_of_le ih
    · simp [h]

/-- A text with its variables replaced by their values. An open brace that is never closed stands for
itself, and so does a dollar sign before another one or before anything that starts no name. -/
def replaceVariables (lookup : String → Option String) : List Char → Except String (List Char)
  | [] => .ok []
  | '$' :: '{' :: rest =>
    let inside := rest.takeWhile (· != '}')
    if inside.length < rest.length then do
      let (name, default) := nameAndDefault inside
      let value ← valueOf lookup name default
      return value ++ (← replaceVariables lookup (rest.drop (inside.length + 1)))
    else return '$' :: '{' :: (← replaceVariables lookup rest)
  | '$' :: '$' :: rest => return '$' :: (← replaceVariables lookup rest)
  | '$' :: rest => do
    let name := rest.takeWhile isNameChar
    if name.isEmpty then return '$' :: (← replaceVariables lookup rest)
    else
      let value ← valueOf lookup name none
      return value ++ (← replaceVariables lookup (rest.dropWhile isNameChar))
  | c :: rest => return c :: (← replaceVariables lookup rest)
termination_by text => text.length
decreasing_by
  all_goals simp only [List.length_cons, List.length_drop]
  all_goals have := length_dropWhile_le isNameChar rest
  all_goals omega

/-- A path with a tilde at its start, alone or before a slash, replaced by the home directory. -/
def tilde (home : String) : List Char → List Char
  | ['~'] => home.toList
  | '~' :: '/' :: rest => home.toList ++ '/' :: rest
  | text => text

/-- The path that a text in the configuration stands for; the name of a variable that is not set is the
error. -/
def expand (vars : Variables) (raw : String) : Except String String := do
  let text ← replaceVariables vars.get? raw.toList
  return String.ofList (if raw.toList.head? = some '~' then tilde vars.home text else text)

end Expansion

end BatchJob
