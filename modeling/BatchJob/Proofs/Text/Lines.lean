import Mathlib.Data.List.Basic
import BatchJob.Text.Lines

/-!
# The lines of a text

`IsLines` says what the lines of a text are, one line at a time. A text is cut into them (`isLines_lines`).
-/

namespace BatchJob.Text

/-- The lines of a text. A newline ends a line, together with a carriage return directly before it. What follows the
last newline is a line as it is, unless it is empty. -/
inductive IsLines : List Char → List (List Char) → Prop
  | nil : IsLines [] []
  | last {line : List Char} : line ≠ [] → '\n' ∉ line → IsLines line [line]
  | newline {line rest : List Char} {more : List (List Char)} : '\n' ∉ line → line.getLast? ≠ some '\r' →
      IsLines rest more → IsLines (line ++ '\n' :: rest) (line :: more)
  | returned {line rest : List Char} {more : List (List Char)} : '\n' ∉ line →
      IsLines rest more → IsLines (line ++ '\r' :: '\n' :: rest) (line :: more)

variable {text rest : List Char}

theorem splitOnNewline_ne_nil (text : List Char) : splitOnNewline text ≠ [] := by
  cases text with
  | nil => simp [splitOnNewline]
  | cons c rest =>
    rw [splitOnNewline]
    split
    · simp
    · split <;> simp

theorem splitOnNewline_append (unbroken : '\n' ∉ text) (rest : List Char) :
    splitOnNewline (text ++ '\n' :: rest) = text :: splitOnNewline rest := by
  induction text with
  | nil => simp [splitOnNewline]
  | cons c text ih =>
    have hc : c ≠ '\n' := fun h => unbroken (h ▸ List.mem_cons_self)
    have htext : '\n' ∉ text := fun h => unbroken (List.mem_cons_of_mem c h)
    rw [List.cons_append, splitOnNewline, if_neg hc, ih htext]

theorem splitOnNewline_of_unbroken (unbroken : '\n' ∉ text) : splitOnNewline text = [text] := by
  induction text with
  | nil => rfl
  | cons c text ih =>
    have hc : c ≠ '\n' := fun h => unbroken (h ▸ List.mem_cons_self)
    have htext : '\n' ∉ text := fun h => unbroken (List.mem_cons_of_mem c h)
    rw [splitOnNewline, if_neg hc, ih htext]

/-- The first newline ends the first line. -/
theorem lines_append (unbroken : '\n' ∉ text) (rest : List Char) :
    lines (text ++ '\n' :: rest) = dropCarriageReturn text :: lines rest := by
  obtain ⟨first, more, hmore⟩ := List.exists_cons_of_ne_nil (splitOnNewline_ne_nil rest)
  unfold lines
  simp only [splitOnNewline_append unbroken, hmore, List.dropLast_cons_cons, List.map_cons, List.cons_append,
    List.getLast?_cons_cons]

theorem lines_of_unbroken (unbroken : '\n' ∉ text) : lines text = if text.isEmpty then [] else [text] := by
  unfold lines
  simp [splitOnNewline_of_unbroken unbroken]

/-- **A text is cut into its lines.** -/
theorem isLines_lines (text : List Char) : IsLines text (lines text) := by
  by_cases h : '\n' ∈ text
  · obtain ⟨line, rest, htext, hline⟩ := List.eq_append_cons_of_mem h
    have hshorter : rest.length < text.length := by
      rw [htext, List.length_append, List.length_cons]
      omega
    have ih : IsLines rest (lines rest) := isLines_lines rest
    rw [htext, lines_append hline]
    unfold dropCarriageReturn
    by_cases hreturn : line.getLast? = some '\r'
    · obtain ⟨start, rfl⟩ := List.getLast?_eq_some_iff.mp hreturn
      rw [if_pos hreturn, List.dropLast_concat, List.append_assoc]
      exact .returned (fun hmem => hline (List.mem_append_left _ hmem)) ih
    · rw [if_neg hreturn]
      exact .newline hline hreturn ih
  · rw [lines_of_unbroken h]
    cases text with
    | nil => exact .nil
    | cons c text => exact .last (List.cons_ne_nil c text) h
termination_by text.length

/-- No line has a newline in it. -/
theorem IsLines.unbroken {lines : List (List Char)} (h : IsLines text lines) : ∀ line ∈ lines, '\n' ∉ line := by
  induction h with
  | nil => simp
  | last _ hline => simpa using hline
  | newline hline _ _ ih => exact List.forall_mem_cons.mpr ⟨hline, ih⟩
  | returned hline _ ih => exact List.forall_mem_cons.mpr ⟨hline, ih⟩

end BatchJob.Text
