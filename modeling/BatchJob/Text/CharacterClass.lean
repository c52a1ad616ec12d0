/-!
# Classes of characters

The classes that patterns and programs name between colons. Only the characters of ASCII belong to any of them.
-/

namespace BatchJob.Text

/-- Whether a character belongs to the class with a name; absent if there is no such class. -/
def characterClass? (name : String) : Option (Char → Bool) :=
  let isPunctuation (c : Char) : Bool := 32 < c.toNat && c.toNat < 127 && !c.isAlphanum
  match name with
  | "alpha" => some Char.isAlpha
  | "digit" => some Char.isDigit
  | "alnum" => some Char.isAlphanum
  | "upper" => some Char.isUpper
  | "lower" => some Char.isLower
  | "space" => some fun c => c == ' ' || (9 ≤ c.toNat && c.toNat ≤ 13)
  | "blank" => some fun c => c == ' ' || c == '\t'
  | "punct" => some isPunctuation
  | "print" => some fun c => 32 ≤ c.toNat && c.toNat < 127
  | "graph" => some fun c => 32 < c.toNat && c.toNat < 127
  | "cntrl" => some fun c => c.toNat < 32 || c.toNat == 127
  | "xdigit" => some fun c => c.isDigit || ('a' ≤ c && c ≤ 'f') || ('A' ≤ c && c ≤ 'F')
  | _ => none

/-- Whether a character belongs to the class with a name. -/
def isInClass (name : String) (c : Char) : Bool :=
  (characterClass? name).any (· c)

end BatchJob.Text
