import Mathlib.Data.List.TakeWhile
import BatchJob.Text.Blank

/-!
# Trimming and cutting

What is left of a text when the blanks at its ends are dropped, and where a text is cut in two. `IsTrim` says which
part of a text its trimmed form is without saying how it is found; it is found by `trim` (`isTrim_trim`), and there is
no other (`IsTrim.trim_eq`).
-/

namespace BatchJob.Text

variable {text : List Char}

/-! ## Trimming -/

/-- A text is trimmed to nothing when it is blank throughout. -/
theorem trim_eq_nil_iff (text : List Char) : trim text = [] ↔ text.all isBlank = true := by
  have hend (l : List Char) : trimEnd l = [] ↔ ∀ c ∈ l, isBlank c = true := by
    unfold trimEnd
    rw [List.reverse_eq_nil_iff, List.dropWhile_eq_nil_iff]
    simp only [List.mem_reverse]
  unfold trim
  rw [hend, List.all_eq_true]
  constructor
  · intro h c hc
    rw [← List.takeWhile_append_dropWhile (p := isBlank) (l := text)] at hc
    rcases List.mem_append.mp hc with hstart | hrest
    · exact List.mem_takeWhile_imp hstart
    · exact h c hrest
  · intro h c hc
    exact h c ((List.dropWhile_sublist isBlank).subset hc)

/-- What is left of a text without the blanks around it. -/
structure IsTrim (text core : List Char) : Prop where
  around : ∃ before after, text = before ++ core ++ after ∧
    (∀ c ∈ before, isBlank c = true) ∧ ∀ c ∈ after, isBlank c = true
  first : ∀ c, core.head? = some c → isBlank c = false
  last : ∀ c, core.getLast? = some c → isBlank c = false

/-- A text that does not start with `p` loses nothing when what satisfies `p` is dropped from its start. -/
theorem dropWhile_eq_self {p : Char → Bool} (h : ∀ c, text.head? = some c → p c = false) :
    text.dropWhile p = text := by
  cases text with
  | nil => rfl
  | cons c rest => rw [List.dropWhile_cons_of_neg (by rw [h c rfl]; decide)]

/-- Where dropping stops, the property fails. -/
theorem head_dropWhile {p : Char → Bool} {c : Char} (h : (text.dropWhile p).head? = some c) : p c = false := by
  have hstop := List.head?_dropWhile_not p text
  rw [h] at hstop
  exact hstop

/-- Blanks at the end do not change what is left when the blanks at the end are dropped. -/
theorem trimEnd_append {after : List Char} (h : ∀ c ∈ after, isBlank c = true) :
    trimEnd (text ++ after) = trimEnd text := by
  unfold trimEnd
  rw [List.reverse_append, List.dropWhile_append_of_pos]
  intro c hc
  exact h c (List.mem_reverse.mp hc)

/-- **A text has one trimmed form.** -/
theorem IsTrim.trim_eq {core : List Char} (h : IsTrim text core) : trim text = core := by
  obtain ⟨before, after, rfl, hbefore, hafter⟩ := h.around
  cases core with
  | nil =>
    rw [trim_eq_nil_iff, List.all_eq_true]
    intro c hc
    rw [List.append_nil] at hc
    rcases List.mem_append.mp hc with hc | hc
    · exact hbefore c hc
    · exact hafter c hc
  | cons c rest =>
    have hstart : trimStart (before ++ c :: rest ++ after) = c :: rest ++ after := by
      unfold trimStart
      rw [List.append_assoc, List.dropWhile_append_of_pos hbefore]
      exact dropWhile_eq_self h.first
    have hend : trimEnd (c :: rest) = c :: rest := by
      unfold trimEnd
      rw [dropWhile_eq_self, List.reverse_reverse]
      intro d hd
      rw [List.head?_reverse] at hd
      exact h.last d hd
    unfold trim
    rw [hstart, trimEnd_append hafter, hend]

/-- **Every text has a trimmed form.** -/
theorem isTrim_trim (text : List Char) : IsTrim text (trim text) := by
  have hsplit : trimStart text = trim text ++ ((trimStart text).reverse.takeWhile isBlank).reverse := by
    unfold trim trimEnd
    rw [← List.reverse_append, List.takeWhile_append_dropWhile, List.reverse_reverse]
  refine ⟨⟨text.takeWhile isBlank, ((trimStart text).reverse.takeWhile isBlank).reverse, ?_, ?_, ?_⟩, ?_, ?_⟩
  · rw [List.append_assoc, ← hsplit]
    exact List.takeWhile_append_dropWhile.symm
  · intro c hc
    exact List.mem_takeWhile_imp hc
  · intro c hc
    exact List.mem_takeWhile_imp (List.mem_reverse.mp hc)
  · -- The first character that is left is the first one after the blanks at the start.
    intro c hc
    have hhead : (trimStart text).head? = some c := by
      rw [hsplit, List.head?_append, hc]
      rfl
    exact head_dropWhile hhead
  · intro c hc
    unfold trim trimEnd at hc
    rw [List.getLast?_reverse] at hc
    exact head_dropWhile hc

/-- Blanks around a text do not change its trimmed form. -/
theorem IsTrim.padded {core before after : List Char} (h : IsTrim text core)
    (hbefore : ∀ c ∈ before, isBlank c = true) (hafter : ∀ c ∈ after, isBlank c = true) :
    IsTrim (before ++ text ++ after) core := by
  obtain ⟨start, finish, rfl, hstart, hfinish⟩ := h.around
  refine ⟨⟨before ++ start, finish ++ after, ?_, ?_, ?_⟩, h.first, h.last⟩
  · simp only [List.append_assoc]
  · intro c hc
    rcases List.mem_append.mp hc with hc | hc
    · exact hbefore c hc
    · exact hstart c hc
  · intro c hc
    rcases List.mem_append.mp hc with hc | hc
    · exact hfinish c hc
    · exact hafter c hc

/-- A trimmed form has no blanks around it. -/
theorem IsTrim.trimmed {core : List Char} (h : IsTrim text core) : IsTrim core core :=
  ⟨⟨[], [], by simp, by simp, by simp⟩, h.first, h.last⟩

/-! ## Cutting a text in two -/

variable {p : Char → Bool} {before after : List Char}

theorem splitAtFirst_append {c : Char} (hbefore : ∀ d ∈ before, p d = false) (hc : p c = true) :
    splitAtFirst p (before ++ c :: after) = (before, some after) := by
  induction before with
  | nil => simp [splitAtFirst, hc]
  | cons d before ih =>
    have hd : p d = false := hbefore d List.mem_cons_self
    have hrest := ih fun e he => hbefore e (List.mem_cons_of_mem d he)
    simp [splitAtFirst, hd, hrest]

theorem splitAtFirst_of_none (h : ∀ d ∈ text, p d = false) : splitAtFirst p text = (text, none) := by
  induction text with
  | nil => rfl
  | cons d text ih =>
    have hd : p d = false := h d List.mem_cons_self
    have hrest := ih fun e he => h e (List.mem_cons_of_mem d he)
    simp [splitAtFirst, hd, hrest]

/-- A text is cut at the first character that satisfies `p`. -/
theorem splitAtFirst_eq_some_iff :
    splitAtFirst p text = (before, some after) ↔
      ∃ c, text = before ++ c :: after ∧ p c = true ∧ ∀ d ∈ before, p d = false := by
  constructor
  · intro h
    induction text generalizing before with
    | nil => cases h
    | cons d text ih =>
      rw [splitAtFirst] at h
      by_cases hd : p d = true
      · rw [if_pos hd] at h
        cases h
        exact ⟨d, rfl, hd, by simp⟩
      · rw [if_neg hd] at h
        rcases hsplit : splitAtFirst p text with ⟨start, rest⟩
        rw [hsplit] at h
        cases h
        obtain ⟨c, rfl, hc, hstart⟩ := ih hsplit
        refine ⟨c, rfl, hc, ?_⟩
        intro e he
        rcases List.mem_cons.mp he with rfl | he
        · exact Bool.eq_false_iff.mpr hd
        · exact hstart e he
  · rintro ⟨c, rfl, hc, hbefore⟩
    exact splitAtFirst_append hbefore hc

end BatchJob.Text
