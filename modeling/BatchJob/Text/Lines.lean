/-!
# Lines

Cutting a text into lines at the newline characters. A carriage return directly before a newline belongs
to the line's end; a last line that is empty is not a line.
-/

namespace BatchJob.Text

/-- The pieces of a text between newlines, the last one included even when it is empty. -/
def splitOnNewline : List Char → List (List Char)
  | [] => [[]]
  | c :: rest =>
    if c = '\n' then [] :: splitOnNewline rest
    else
      match splitOnNewline rest with
      | [] => [[c]]
      | piece :: pieces => (c :: piece) :: pieces

/-- A line without the one carriage return that may stand at its end. -/
def dropCarriageReturn (line : List Char) : List Char :=
  if line.getLast? = some '\r' then line.dropLast else line

/-- The lines of a text: each piece that a newline ends, without its line ending, then the rest after the
last newline as it is, unless that rest is empty. -/
def lines (text : List Char) : List (List Char) :=
  let pieces := splitOnNewline text
  let last := pieces.getLast?.getD []
  pieces.dropLast.map dropCarriageReturn ++ (if last.isEmpty then [] else [last])

end BatchJob.Text
