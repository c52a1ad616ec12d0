import BatchJob.Console.Command
import BatchJob.Proofs.Text.Blank
import BatchJob.Proofs.Text.LetterCase

/-!
# The grammar of a console line

What a line says, told without the way it is taken apart: `Reads` cuts a line that is not blank into its verb and the
text after it, and `Spells` compares a verb with the words of the grammar. Every line that is not blank reads in one
way (`exists_reads`), and the command is the one that its verb spells (`Reads.ofChars?_eq`). The main statement is
`line_grammar`.
-/

namespace BatchJob.Console.Command

open Text

/-- How a line reads: its verb is the first run of characters that are not blank, taken as long as it goes, and its
text is the remainder without the blanks around it. -/
structure Reads (line verb text : List Char) : Prop where
  nonempty : verb ≠ []
  solid : ∀ c ∈ verb, isBlank c = false
  cut : ∃ indent rest, line = indent ++ verb ++ rest ∧ (∀ c ∈ indent, isBlank c = true) ∧
    (∀ c, rest.head? = some c → isBlank c = true) ∧ IsTrim rest text

/-- Whether a verb is one of some words, up to the case of ASCII letters. -/
def Spells (words : List String) (verb : List Char) : Prop :=
  ∃ word ∈ words, SameLetters verb word.toList

instance (words : List String) (verb : List Char) : Decidable (Spells words verb) :=
  inferInstanceAs (Decidable (∃ word ∈ words, SameLetters verb word.toList))

variable {line verb text whole : List Char}

/-! ## Cutting a line -/

/-- Every line that is not blank reads in some way. -/
theorem exists_reads (h : ¬ ∀ c ∈ line, isBlank c = true) : ∃ verb text, Reads line verb text := by
  let start := trimStart line
  refine ⟨start.takeWhile (!isBlank ·), trim (start.dropWhile (!isBlank ·)), ?_, ?_, ?_⟩
  · -- The line does not end before its verb, and what is not dropped from its start is not blank.
    intro hnil
    cases hstart : start with
    | nil => exact h (List.dropWhile_eq_nil_iff.mp hstart)
    | cons c rest =>
      have hhead : (line.dropWhile isBlank).head? = some c := by
        show start.head? = some c
        rw [hstart]
        rfl
      have hc : isBlank c = false := head_dropWhile hhead
      rw [hstart] at hnil
      simp [hc] at hnil
  · intro c hc
    have hsolid := List.mem_takeWhile_imp hc
    simpa using hsolid
  · refine ⟨line.takeWhile isBlank, start.dropWhile (!isBlank ·), ?_, ?_, ?_, isTrim_trim _⟩
    · rw [List.append_assoc, List.takeWhile_append_dropWhile]
      exact List.takeWhile_append_dropWhile.symm
    · intro c hc
      exact List.mem_takeWhile_imp hc
    · intro c hc
      have hstop := head_dropWhile hc
      simpa using hstop

/-- A line that reads in some way is not blank. -/
theorem Reads.not_blank (h : Reads line verb text) : ¬ ∀ c ∈ line, isBlank c = true := by
  intro hblank
  obtain ⟨indent, rest, rfl, -⟩ := h.cut
  obtain ⟨c, verb', rfl⟩ := List.exists_cons_of_ne_nil h.nonempty
  have hsolid : isBlank c = false := h.solid c List.mem_cons_self
  rw [hblank c (by simp)] at hsolid
  cases hsolid

/-- The trimmed line starts with its verb. What follows is nothing if the text is empty, and else a blank and
something whose trimmed form the text is. -/
theorem Reads.trim_eq (h : Reads line verb text) :
    (text = [] ∧ trim line = verb) ∨
      ∃ c gap, isBlank c = true ∧ trim line = verb ++ c :: (gap ++ text) ∧ IsTrim (gap ++ text) text := by
  obtain ⟨indent, rest, rfl, hindent, hrest, htrim⟩ := h.cut
  obtain ⟨gap, finish, rfl, hgap, hfinish⟩ := htrim.around
  obtain ⟨first, verb', rfl⟩ := List.exists_cons_of_ne_nil h.nonempty
  have hfirst : isBlank first = false := h.solid first List.mem_cons_self
  by_cases htext : text = []
  · subst htext
    refine .inl ⟨rfl, IsTrim.trim_eq ⟨⟨indent, gap ++ finish, by simp, hindent, ?_⟩, ?_, ?_⟩⟩
    · intro c hc
      rcases List.mem_append.mp hc with hc | hc
      · exact hgap c hc
      · exact hfinish c hc
    · rintro c ⟨⟩
      exact hfirst
    · intro c hc
      exact h.solid c (List.mem_of_getLast? hc)
  · cases gap with
    | nil =>
      -- Without a gap the text would belong to the verb.
      obtain ⟨c, text', rfl⟩ := List.exists_cons_of_ne_nil htext
      have hblank := hrest c rfl
      rw [htrim.first c rfl] at hblank
      cases hblank
    | cons c gap =>
      refine .inr ⟨c, gap, hgap c List.mem_cons_self, ?_, ?_⟩
      · refine IsTrim.trim_eq ⟨⟨indent, finish, by simp, hindent, hfinish⟩, ?_, ?_⟩
        · rintro d ⟨⟩
          exact hfirst
        · intro d hd
          refine htrim.last d ?_
          rw [← List.cons_append, ← List.append_assoc, List.getLast?_append_of_ne_nil _ htext] at hd
          exact hd
      · refine ⟨⟨gap, [], by simp, ?_, by simp⟩, htrim.first, htrim.last⟩
        intro d hd
        exact hgap d (List.mem_cons_of_mem c hd)

/-- The first blank of the trimmed line parts the verb from something whose trimmed form the text is. -/
theorem Reads.splitAtFirst_trim (h : Reads line verb text) :
    ∃ rest, splitAtFirst isBlank (trim line) = (verb, rest) ∧ trim (rest.getD []) = text := by
  rcases h.trim_eq with ⟨rfl, hline⟩ | ⟨c, gap, hc, hline, htext⟩
  · refine ⟨none, ?_, rfl⟩
    rw [hline, splitAtFirst_of_none h.solid]
  · refine ⟨some (gap ++ text), ?_, htext.trim_eq⟩
    rw [hline, splitAtFirst_append h.solid hc]

/-! ## The command -/

/-- A line that is not blank has the command of its trimmed form. -/
theorem ofChars?_eq_some (h : trim line ≠ []) : ofChars? line = some (ofTrimmed (trim line)) := by
  unfold ofChars?
  cases htrim : trim line with
  | nil => exact absurd htrim h
  | cons c rest => rfl

/-- A line has no command if it is blank throughout. -/
theorem ofChars?_eq_none_iff : ofChars? line = none ↔ ∀ c ∈ line, isBlank c = true := by
  rw [← List.all_eq_true, ← trim_eq_nil_iff]
  constructor
  · intro h
    by_contra htrim
    rw [ofChars?_eq_some htrim] at h
    cases h
  · intro h
    unfold ofChars?
    rw [h]

/-- The command of a line depends on its trimmed form only. -/
theorem ofChars?_congr {other : List Char} (h : trim line = trim other) : ofChars? line = ofChars? other := by
  unfold ofChars?
  rw [h]

/-- The command of a line by its verb: the raised verb is looked up in the words of the grammar. -/
theorem Reads.ofChars?_eq (h : Reads line verb text) :
    ofChars? line =
      some (if String.ofList (verb.map upperAscii) ∈ stopVerbs then .stop
        else if String.ofList (verb.map upperAscii) ∈ modifyVerbs then .modify (String.ofList text)
        else .unrecognized (String.ofList (trim line))) := by
  have hline : trim line ≠ [] := by
    rw [ne_eq, trim_eq_nil_iff, List.all_eq_true]
    exact h.not_blank
  obtain ⟨rest, hsplit, htext⟩ := h.splitAtFirst_trim
  rw [ofChars?_eq_some hline, ofTrimmed, hsplit]
  simp only [htext]

/-- The raised verb is one of some words in upper case if the verb spells one of them. -/
theorem mem_iff_spells {words : List String} (h : ∀ word ∈ words, word.toList.map upperAscii = word.toList) :
    String.ofList (verb.map upperAscii) ∈ words ↔ Spells words verb := by
  constructor
  · intro hmem
    refine ⟨_, hmem, ?_⟩
    rw [← map_upperAscii_eq (h _ hmem), String.toList_ofList]
  · rintro ⟨word, hmem, hsame⟩
    rw [(map_upperAscii_eq (h word hmem)).mpr hsame, String.ofList_toList]
    exact hmem

theorem upper_stopVerbs : ∀ word ∈ stopVerbs, word.toList.map upperAscii = word.toList := by
  decide

theorem upper_modifyVerbs : ∀ word ∈ modifyVerbs, word.toList.map upperAscii = word.toList := by
  decide

theorem not_mem_modifyVerbs : ∀ word ∈ stopVerbs, word ∉ modifyVerbs := by
  decide

/-- The three kinds of lines, by what the verb spells. -/
theorem Reads.ofChars?_iff (h : Reads line verb text) :
    (ofChars? line = some .stop ↔ Spells stopVerbs verb) ∧
    (ofChars? line = some (.modify (String.ofList text)) ↔ Spells modifyVerbs verb) ∧
    (ofChars? line = some (.unrecognized (String.ofList (trim line))) ↔
      ¬ Spells stopVerbs verb ∧ ¬ Spells modifyVerbs verb) := by
  rw [h.ofChars?_eq, ← mem_iff_spells upper_stopVerbs, ← mem_iff_spells upper_modifyVerbs]
  generalize String.ofList (verb.map upperAscii) = upper
  by_cases hstop : upper ∈ stopVerbs
  · have hmodify : upper ∉ modifyVerbs := not_mem_modifyVerbs upper hstop
    simp [hstop, hmodify]
  · by_cases hmodify : upper ∈ modifyVerbs
    · simp [hstop, hmodify]
    · simp [hstop, hmodify]

/-- A line that is not recognised is told by its trimmed form. -/
theorem eq_trim_of_unrecognized {told : String} (h : ofChars? line = some (.unrecognized told)) :
    told.toList = trim line := by
  have hline : ¬ ∀ c ∈ line, isBlank c = true := by
    intro hblank
    rw [ofChars?_eq_none_iff.mpr hblank] at h
    cases h
  obtain ⟨verb, text, hreads⟩ := exists_reads hline
  rw [hreads.ofChars?_eq] at h
  split at h
  · cases h
  · split at h
    · cases h
    · cases h
      exact String.toList_ofList

/-- **A line has no command exactly if it is blank, and else the command that its verb spells**: every line that is not
blank has a verb and a text after it; a line that stops the job has one of the verbs for that, a line with a text for
the job one of the verbs for that, and every other line is told as a whole, without the blanks around it. So blanks
around a line say nothing, any trimmed text can be sent to the job, and a line that is not recognised is told so that
it would be told the same way again. -/
theorem line_grammar (line : String) :
    (parse? line = none ↔ ∀ c ∈ line.toList, isBlank c = true) ∧
    ((¬ ∀ c ∈ line.toList, isBlank c = true) → ∃ verb text, Reads line.toList verb text) ∧
    (∀ verb text whole, Reads line.toList verb text → IsTrim line.toList whole →
      (parse? line = some .stop ↔ Spells ["P", "STOP"] verb) ∧
      (parse? line = some (.modify (String.ofList text)) ↔ Spells ["F", "MODIFY"] verb) ∧
      (parse? line = some (.unrecognized (String.ofList whole)) ↔
        ¬ Spells ["P", "STOP"] verb ∧ ¬ Spells ["F", "MODIFY"] verb)) ∧
    (∀ before after : String, (∀ c ∈ before.toList, isBlank c = true) → (∀ c ∈ after.toList, isBlank c = true) →
      parse? (before ++ line ++ after) = parse? line) ∧
    (∀ text : String, IsTrim text.toList text.toList → parse? ("F " ++ text) = some (.modify text)) ∧
    (∀ told, parse? line = some (.unrecognized told) → parse? told = some (.unrecognized told)) := by
  refine ⟨ofChars?_eq_none_iff, exists_reads, ?_, ?_, ?_, ?_⟩
  · intro verb text whole hreads hwhole
    rw [← hwhole.trim_eq]
    exact hreads.ofChars?_iff
  · intro before after hbefore hafter
    unfold parse?
    rw [String.toList_append, String.toList_append]
    exact ofChars?_congr ((isTrim_trim line.toList).padded hbefore hafter).trim_eq
  · intro text htrim
    have hline : ("F " ++ text).toList = [] ++ ['F'] ++ ' ' :: text.toList := by
      simp
    have hreads : Reads ("F " ++ text).toList ['F'] text.toList := by
      refine ⟨by simp, by simp [isBlank], [], ' ' :: text.toList, hline, by simp, ?_, ?_⟩
      · rintro c ⟨⟩
        rfl
      · have hpadded : IsTrim ([' '] ++ text.toList ++ []) text.toList :=
          htrim.padded (by simp [isBlank]) (by simp)
        rw [List.append_nil] at hpadded
        exact hpadded
    have hmodify := hreads.ofChars?_iff.2.1.mpr ⟨"F", by decide, rfl⟩
    rw [String.ofList_toList] at hmodify
    exact hmodify
  · intro told h
    have htold : told.toList = trim line.toList := eq_trim_of_unrecognized h
    unfold parse? at h ⊢
    rw [← h]
    refine ofChars?_congr ?_
    rw [htold]
    exact (isTrim_trim line.toList).trimmed.trim_eq

/-- A line with blanks of several kinds sends its text to the job, with more blanks around it too; and a line whose verb
only looks like one of the grammar's is told as it is, and told the same way again. -/
theorem line_grammar_blanksAround :
    parse? "\u3000Modify\t hello you \n" = some (.modify "hello you") ∧
    parse? (" " ++ "\u3000Modify\t hello you \n" ++ "\u2003") = parse? "\u3000Modify\t hello you \n" ∧
    parse? "F hello you" = some (.modify "hello you") ∧
    parse? " \uff26 you" = some (.unrecognized "\uff26 you") ∧
    parse? "\uff26 you" = some (.unrecognized "\uff26 you") := by
  obtain ⟨-, -, hcommand, hpadded, hmodify, -⟩ := line_grammar "\u3000Modify\t hello you \n"
  obtain ⟨-, -, hother, -, -, hagain⟩ := line_grammar " \uff26 you"
  have htext : IsTrim "hello you".toList "hello you".toList :=
    ⟨⟨[], [], by simp, by simp, by simp⟩, by simp [isBlank], by simp [isBlank]⟩
  have hreads : Reads "\u3000Modify\t hello you \n".toList "Modify".toList "hello you".toList := by
    refine ⟨by simp, by simp [isBlank], "\u3000".toList, "\t hello you \n".toList, by simp, by simp [isBlank],
      by simp [isBlank], ?_⟩
    exact ⟨⟨"\t ".toList, " \n".toList, by simp, by simp [isBlank], by simp [isBlank]⟩, htext.first, htext.last⟩
  have hwhole : IsTrim "\u3000Modify\t hello you \n".toList "Modify\t hello you".toList :=
    ⟨⟨"\u3000".toList, " \n".toList, by simp, by simp [isBlank], by simp [isBlank]⟩, by simp [isBlank],
      by simp [isBlank]⟩
  have hreadsOther : Reads " \uff26 you".toList "\uff26".toList "you".toList := by
    refine ⟨by simp, by simp [isBlank], " ".toList, " you".toList, by simp, by simp [isBlank], by simp [isBlank], ?_⟩
    exact ⟨⟨" ".toList, [], by simp, by simp [isBlank], by simp⟩, by simp [isBlank], by simp [isBlank]⟩
  have hwholeOther : IsTrim " \uff26 you".toList "\uff26 you".toList :=
    ⟨⟨" ".toList, [], by simp, by simp [isBlank], by simp⟩, by simp [isBlank], by simp [isBlank]⟩
  have htold : parse? " \uff26 you" = some (.unrecognized "\uff26 you") :=
    (hother _ _ _ hreadsOther hwholeOther).2.2.mpr ⟨by decide, by decide⟩
  exact ⟨(hcommand _ _ _ hreads hwhole).2.1.mpr (by decide),
    hpadded " " "\u2003" (by simp [isBlank]) (by simp [isBlank]), hmodify "hello you" htext, htold, hagain _ htold⟩

end BatchJob.Console.Command
