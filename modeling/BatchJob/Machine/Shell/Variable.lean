import BatchJob.Machine.Shell.Script

/-!
# Variables

What the variables of a shell hold and which marks they carry. In the extended dialect a variable may hold several
texts, under numbers or under keys.
-/

namespace BatchJob.Machine

/-- What a variable holds. -/
inductive Content
  | text (value : String)
  /-- Texts under numbers, in the order of the numbers. -/
  | indexed (items : List (Nat × String))
  /-- Texts under keys. -/
  | keyed (items : List (String × String))
  deriving DecidableEq, Repr

/-- What becomes of the letters of a value. -/
inductive LetterCase
  | upper
  | lower
  deriving DecidableEq, Repr

/-- A variable. -/
structure Variable where
  content : Option Content := none
  /-- Whether programs inherit it. -/
  isExported : Bool := false
  /-- Whether its value stays as it is. -/
  isFixed : Bool := false
  /-- Whether its value is that of an arithmetic expression. -/
  isInteger : Bool := false
  letterCase : Option LetterCase := none
  deriving DecidableEq, Repr

namespace Content

/-- The text that stands for the whole: that under the number zero if there are several. -/
def text? : Content → Option String
  | .text value => some value
  | .indexed items => items.lookup 0
  | .keyed items => items.lookup "0"

/-- All texts. -/
def values : Content → List String
  | .text value => [value]
  | .indexed items => items.map Prod.snd
  | .keyed items => items.map Prod.snd

/-- The keys of all texts. -/
def keys : Content → List String
  | .text _ => ["0"]
  | .indexed items => items.map fun (n, _) => toString n
  | .keyed items => items.map Prod.fst

/-- Puts a text under a number, in the place of the one that is there. -/
def insertAt (n : Nat) (value : String) (items : List (Nat × String)) : List (Nat × String) :=
  items.takeWhile (·.1 < n) ++ (n, value) :: items.dropWhile (·.1 ≤ n)

/-- Texts under numbers, in their order. -/
def toIndexed : Option Content → List (Nat × String)
  | some (.indexed items) => items
  | some (.text value) => [(0, value)]
  | _ => []

end Content

end BatchJob.Machine
