import Mathlib.Data.List.Basic
import BatchJob.Console.Listener
import BatchJob.Proofs.Text.Blank
import BatchJob.Proofs.Text.Utf8

/-!
# The lines of a console

What a console owes for its bytes: they are cut after each newline (`lines`), and each line has a reply of its own
or, if it is blank, none (`lineReply?`). Of a console that is still written to, only the lines that have their
newline count (`completeLines`), since what follows may belong to the last one.

`Gives` relates two points of a stream by the replies between them. It is what a reader proves about each step it
takes, and it composes (`Gives.trans`).
-/

namespace BatchJob.Console

/-! ## Cutting bytes into lines -/

/-- Bytes cut after each newline. A rest that no newline ends is a line too, unless it is empty. -/
def lines : Bytes → List Bytes
  | [] => []
  | b :: rest =>
    if b = 10 then [b] :: lines rest
    else
      match lines rest with
      | [] => [[b]]
      | line :: more => (b :: line) :: more

/-- The lines that have their newline. -/
def completeLines (bytes : Bytes) : List Bytes :=
  (lines bytes).filter fun line => line.getLast? = some 10

variable {text : Bytes}

theorem lines_append_newline (unbroken : 10 ∉ text) (rest : Bytes) :
    lines (text ++ 10 :: rest) = (text ++ [10]) :: lines rest := by
  induction text with
  | nil => rfl
  | cons b text ih =>
    have hb : b ≠ 10 := fun h => unbroken (h ▸ List.mem_cons_self)
    have htext : 10 ∉ text := fun h => unbroken (List.mem_cons_of_mem b h)
    rw [List.cons_append, lines, if_neg hb, ih htext]
    rfl

theorem lines_of_unbroken (unbroken : 10 ∉ text) (nonempty : text ≠ []) : lines text = [text] := by
  induction text with
  | nil => exact absurd rfl nonempty
  | cons b text ih =>
    have hb : b ≠ 10 := fun h => unbroken (h ▸ List.mem_cons_self)
    have htext : 10 ∉ text := fun h => unbroken (List.mem_cons_of_mem b h)
    rw [lines, if_neg hb]
    by_cases hnil : text = []
    · subst hnil
      rfl
    · rw [ih htext hnil]

theorem completeLines_append_newline (unbroken : 10 ∉ text) (rest : Bytes) :
    completeLines (text ++ 10 :: rest) = (text ++ [10]) :: completeLines rest := by
  unfold completeLines
  rw [lines_append_newline unbroken, List.filter_cons_of_pos]
  rw [List.getLast?_concat]
  exact decide_eq_true rfl

theorem completeLines_of_unbroken (unbroken : 10 ∉ text) : completeLines text = [] := by
  by_cases hnil : text = []
  · subst hnil
    rfl
  · unfold completeLines
    rw [lines_of_unbroken unbroken hnil, List.filter_cons_of_neg]
    · rfl
    · intro hlast
      exact unbroken (List.mem_of_getLast? (of_decide_eq_true hlast))

/-- The first line of some bytes ends in their first newline. -/
theorem splitLine?_eq_some {bytes line rest : Bytes} (h : Source.splitLine? bytes = some (line, rest)) :
    ∃ text, 10 ∉ text ∧ line = text ++ [10] ∧ bytes = text ++ 10 :: rest := by
  induction bytes generalizing line with
  | nil => cases h
  | cons b bytes ih =>
    unfold Source.splitLine? at h
    by_cases hb : b = 10
    · rw [if_pos hb] at h
      cases h
      exact ⟨[], List.not_mem_nil, by rw [hb]; rfl, by rw [hb]; rfl⟩
    · rw [if_neg hb] at h
      obtain ⟨⟨line', rest'⟩, hsplit, heq⟩ := Option.map_eq_some_iff.mp h
      cases heq
      obtain ⟨text, htext, rfl, rfl⟩ := ih hsplit
      refine ⟨b :: text, ?_, rfl, rfl⟩
      intro hmem
      rcases List.mem_cons.mp hmem with h10 | hmem
      · exact hb h10.symm
      · exact htext hmem

/-- Bytes without a first line have no newline. -/
theorem splitLine?_eq_none {bytes : Bytes} (h : Source.splitLine? bytes = none) : 10 ∉ bytes := by
  induction bytes with
  | nil => exact List.not_mem_nil
  | cons b bytes ih =>
    unfold Source.splitLine? at h
    by_cases hb : b = 10
    · rw [if_pos hb] at h
      cases h
    · rw [if_neg hb] at h
      intro hmem
      rcases List.mem_cons.mp hmem with h10 | hmem
      · exact hb h10.symm
      · exact ih (Option.map_eq_none_iff.mp h) hmem

/-! ## The reply to a line -/

/-- What a line comes to: an error if it is not UTF-8, nothing if it is blank, and else its command. -/
def lineReply? (line : Bytes) : Option Reply :=
  match String.fromUTF8? line.toByteArray with
  | none => some (.error (.read .invalidUtf8))
  | some text => if text.toList.all Text.isBlank then none else (Command.parse? text).map .ok

/-- The replies to some lines, one after the other. -/
def lineReplies (lines : List Bytes) : List Reply :=
  lines.filterMap lineReply?

theorem lineReplies_cons (line : Bytes) (more : List Bytes) :
    lineReplies (line :: more) = (lineReply? line).toList ++ lineReplies more := by
  unfold lineReplies
  rw [List.filterMap_cons]
  cases lineReply? line <;> rfl

/-- The reply to a line as the console comes by it. -/
theorem lineReply?_eq (line : Bytes) :
    lineReply? line =
      match Text.decode? line with
      | none => some (.error (.read .invalidUtf8))
      | some text => (Command.ofChars? text).map .ok := by
  unfold lineReply?
  rw [Text.fromUTF8?_eq]
  cases Text.decode? line with
  | none => rfl
  | some text =>
    simp only [Option.map_some, String.toList_ofList, Command.parse?]
    by_cases hblank : text.all Text.isBlank = true
    · rw [if_pos hblank]
      unfold Command.ofChars?
      rw [(Text.trim_eq_nil_iff text).mpr hblank]
      rfl
    · rw [if_neg hblank]

/-! ## From one point of a stream to the next -/

/-- The replies that are due for some bytes: for all of their lines where nothing can follow them, else for those
that have their newline. -/
def due (ended : Bool) (bytes : Bytes) : List Reply :=
  lineReplies (if ended then lines bytes else completeLines bytes)

variable {ended : Bool} {all all' rest : Bytes} {given given' : List Reply}

theorem due_line (unbroken : 10 ∉ text) (rest : Bytes) :
    due ended (text ++ 10 :: rest) = (lineReply? (text ++ [10])).toList ++ due ended rest := by
  unfold due
  rw [← lineReplies_cons, lines_append_newline unbroken, completeLines_append_newline unbroken]
  cases ended <;> rfl

/-- An unterminated rest is not due while something can follow it. -/
theorem due_of_unbroken (unbroken : 10 ∉ text) : due false text = [] := by
  show lineReplies (completeLines text) = []
  rw [completeLines_of_unbroken unbroken]
  rfl

theorem due_last (unbroken : 10 ∉ text) (nonempty : text ≠ []) : due true text = (lineReply? text).toList := by
  show lineReplies (lines text) = _
  rw [lines_of_unbroken unbroken nonempty, lineReplies_cons]
  exact List.append_nil _

/-- Between a point of a stream where `all` is known to follow and a later one where `rest` is, the replies `given`
are due, whatever comes after. -/
def Gives (ended : Bool) (all rest : Bytes) (given : List Reply) : Prop :=
  ∀ more, (ended = true → more = []) → due ended (all ++ more) = given ++ due ended (rest ++ more)

theorem Gives.refl (ended : Bool) (all : Bytes) : Gives ended all all [] :=
  fun _ _ => rfl

theorem Gives.trans (first : Gives ended all all' given) (second : Gives ended all' rest given') :
    Gives ended all rest (given ++ given') := by
  intro more hmore
  rw [first more hmore, second more hmore, List.append_assoc]

/-- What is added to a stream is added to both points. -/
theorem Gives.append (h : Gives false all rest given) (bytes : Bytes) :
    Gives false (all ++ bytes) (rest ++ bytes) given := by
  intro more _
  rw [List.append_assoc, List.append_assoc]
  exact h (bytes ++ more) nofun

theorem Gives.due_eq (h : Gives ended all rest given) : due ended all = given ++ due ended rest := by
  have hnow := h [] fun _ => rfl
  rwa [List.append_nil, List.append_nil] at hnow

/-- A line that has its newline gives its reply. -/
theorem gives_line (unbroken : 10 ∉ text) (rest : Bytes) :
    Gives ended (text ++ 10 :: rest) rest (lineReply? (text ++ [10])).toList := by
  intro more _
  rw [List.append_assoc, List.cons_append, due_line unbroken]

/-- The last line of what nothing can follow gives its reply without a newline. -/
theorem gives_last (unbroken : 10 ∉ text) (nonempty : text ≠ []) :
    Gives true text [] (lineReply? text).toList := by
  intro more hmore
  rw [hmore rfl, List.append_nil, List.append_nil, due_last unbroken nonempty]
  exact (List.append_nil _).symm

end BatchJob.Console
