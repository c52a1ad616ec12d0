import BatchJob.Text.Blank

/-!
# Operator commands

The grammar of one console line: a verb, blanks, and a free text. Verbs are compared without regard to the
case of ASCII letters.
-/

namespace BatchJob.Console

/-- What an operator asks for. -/
inductive Command
  /-- End the job. -/
  | stop
  /-- A free text for the job; it is logged and not acted upon. -/
  | modify (text : String)
  /-- A line whose verb is not known. -/
  | unrecognized (text : String)
  deriving DecidableEq, Repr

namespace Command

/-- The spellings of the verb that stops the job. -/
def stopVerbs : List String := ["P", "STOP"]

/-- The spellings of the verb that carries a free text. -/
def modifyVerbs : List String := ["F", "MODIFY"]

/-- The command in the characters of a line that is not blank and has no blanks around it. -/
def ofTrimmed (line : List Char) : Command :=
  let (verb, rest) := Text.splitAtFirst Text.isBlank line
  let upper := String.ofList (verb.map Text.upperAscii)
  if upper ∈ stopVerbs then .stop
  else if upper ∈ modifyVerbs then .modify (String.ofList (Text.trim (rest.getD [])))
  else .unrecognized (String.ofList line)

/-- The command in the characters of a line; a blank line has none. -/
def ofChars? (line : List Char) : Option Command :=
  match Text.trim line with
  | [] => none
  | trimmed => some (ofTrimmed trimmed)

/-- The command in a console line; a blank line has none. -/
def parse? (line : String) : Option Command :=
  ofChars? line.toList

end Command

end BatchJob.Console
