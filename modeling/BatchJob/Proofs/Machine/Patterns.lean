import Mathlib.Computability.Language
import BatchJob.Machine.Shell.Pattern

/-!
# What patterns stand for

A pattern of the shell stands for a language: its parts for languages one after the other, a group for those of its
choices as its sign says. Matching works on the ends of a text that are left, and steps of it take starts away from
them that are in a language (`Takes`). Each construction of patterns comes with a rule for what its step takes away, so
that a text is accepted exactly if it is in the language of the pattern (`accepts_iff`), and what is taken away from the
start or the end of a text is the longest or the shortest piece in it (`dropStart_spec`, `dropEnd_spec`).
-/

namespace BatchJob.Machine.Pattern

open scoped Computability

variable {K L : Language Char} {f g : List (List Char) → List (List Char)} {whole text left : List Char}
variable {texts a b : List (List Char)}

/-! ## Languages -/

/-- The texts of one character with a property. -/
def single (p : Char → Bool) : Language Char :=
  {text | ∃ c, p c = true ∧ text = [c]}

mutual

/-- The texts that a part of a pattern stands for. -/
def partLanguage : PatternPart → Language Char
  | .exactly c => single (· == c)
  | .anyOne => single fun _ => true
  | .anyText => ⊤
  | .oneOf isNegated ranges => single fun c => isNegated != ranges.any (CharacterRange.holds c)
  | .group sign choices =>
    match sign with
    | '?' => 1 + choiceLanguage choices
    | '*' => (choiceLanguage choices)∗
    | '+' => choiceLanguage choices * (choiceLanguage choices)∗
    | '@' => choiceLanguage choices
    | _ => (choiceLanguage choices)ᶜ

/-- The texts that a pattern stands for. -/
def language : List PatternPart → Language Char
  | [] => 1
  | part :: rest => partLanguage part * language rest

/-- The texts that one of some patterns stands for. -/
def choiceLanguage : List (List PatternPart) → Language Char
  | [] => 0
  | pattern :: rest => language pattern + choiceLanguage rest

end

/-! ## Ends of a text -/

/-- Ends of one text, the longer ones first. -/
structure Ends (whole : List Char) (texts : List (List Char)) : Prop where
  suffix : ∀ text ∈ texts, text <:+ whole
  shorter : texts.Pairwise fun a b => b.length < a.length

theorem Ends.nil (whole : List Char) : Ends whole [] :=
  ⟨fun _ h => absurd h List.not_mem_nil, .nil⟩

theorem Ends.cons (h : Ends whole texts) (suffix : text <:+ whole) (shorter : ∀ t ∈ texts, t.length < text.length) :
    Ends whole (text :: texts) := by
  refine ⟨fun t ht => ?_, List.pairwise_cons.mpr ⟨shorter, h.shorter⟩⟩
  rcases List.mem_cons.mp ht with rfl | ht
  · exact suffix
  · exact h.suffix t ht

theorem Ends.single (whole : List Char) : Ends whole [whole] :=
  (Ends.nil whole).cons (List.suffix_refl whole) fun _ h => absurd h List.not_mem_nil

theorem Ends.head (h : Ends whole (text :: texts)) : text <:+ whole :=
  h.suffix text List.mem_cons_self

theorem Ends.tail (h : Ends whole (text :: texts)) : Ends whole texts :=
  ⟨fun t ht => h.suffix t (List.mem_cons_of_mem _ ht), h.shorter.of_cons⟩

theorem Ends.lt_head (h : Ends whole (text :: texts)) {t : List Char} (ht : t ∈ texts) : t.length < text.length :=
  List.rel_of_pairwise_cons h.shorter ht

/-- Two ends of a text are the same if they are equally long. -/
theorem eq_of_length {s t : List Char} (hs : s <:+ whole) (ht : t <:+ whole) (h : s.length = t.length) : s = t :=
  (List.suffix_of_suffix_length_le hs ht h.le).eq_of_length h

theorem mem_union (ha : Ends whole a) (hb : Ends whole b) : text ∈ union a b ↔ text ∈ a ∨ text ∈ b := by
  fun_induction union a b with
  | case1 b => simp
  | case2 a h => simp
  | case3 x xs y ys hsame ih =>
    -- ends of the same length are the same, so that one of the two is enough
    have heq : x = y := eq_of_length ha.head hb.head hsame
    simp only [List.mem_cons, ih ha.tail hb.tail, heq]
    tauto
  | case4 x xs y ys hne hlt ih =>
    simp only [List.mem_cons, ih ha.tail hb]
    tauto
  | case5 x xs y ys hne hnlt ih =>
    simp only [List.mem_cons, ih ha hb.tail]
    tauto

theorem ends_union (ha : Ends whole a) (hb : Ends whole b) : Ends whole (union a b) := by
  fun_induction union a b with
  | case1 b => exact hb
  | case2 a h => exact ha
  | case3 x xs y ys hsame ih =>
    refine (ih ha.tail hb.tail).cons ha.head fun t ht => ?_
    rcases (mem_union ha.tail hb.tail).mp ht with h | h
    · exact ha.lt_head h
    · exact hsame ▸ hb.lt_head h
  | case4 x xs y ys hne hlt ih =>
    refine (ih ha.tail hb).cons ha.head fun t ht => ?_
    rcases (mem_union ha.tail hb).mp ht with h | h
    · exact ha.lt_head h
    · rcases List.mem_cons.mp h with rfl | h
      · exact hlt
      · exact (hb.lt_head h).trans hlt
  | case5 x xs y ys hne hnlt ih =>
    have hlt : x.length < y.length := by omega
    refine (ih ha hb.tail).cons hb.head fun t ht => ?_
    rcases (mem_union ha hb.tail).mp ht with h | h
    · rcases List.mem_cons.mp h with rfl | h
      · exact hlt
      · exact (ha.lt_head h).trans hlt
    · exact hb.lt_head h

theorem tails_eq (text : List Char) : tails text = text.tails := by
  induction text with
  | nil => rfl
  | cons c rest ih => rw [tails, List.tails_cons, ih]

theorem mem_tails : left ∈ tails text ↔ left <:+ text := by
  rw [tails_eq, List.mem_tails]

theorem ends_tails (suffix : text <:+ whole) : Ends whole (tails text) := by
  induction text with
  | nil => exact (Ends.nil whole).cons suffix fun _ h => absurd h List.not_mem_nil
  | cons c rest ih =>
    refine (ih ((List.suffix_cons c rest).trans suffix)).cons suffix fun t ht => ?_
    exact Nat.lt_succ_of_le (mem_tails.mp ht).length_le

/-- The longest of some ends is at least as long as each. -/
theorem Ends.length_le (h : Ends whole texts) (mem : text ∈ texts) :
    text.length ≤ ((texts.head?).map List.length).getD 0 := by
  cases texts with
  | nil => cases mem
  | cons first rest =>
    rcases List.mem_cons.mp mem with rfl | hlater
    · exact Nat.le_refl _
    · exact (h.lt_head hlater).le

/-! ## Taking starts away -/

/-- A step leaves just what is left of ends of a text when a start in a language is taken away. -/
def Leaves (L : Language Char) (texts result : List (List Char)) : Prop :=
  ∀ left, left ∈ result ↔ ∃ taken ∈ L, taken ++ left ∈ texts

/-- A step takes starts away that are in a language, in every way that there is. -/
def Takes (L : Language Char) (f : List (List Char) → List (List Char)) : Prop :=
  ∀ ⦃whole texts⦄, Ends whole texts → Ends whole (f texts) ∧ Leaves L texts (f texts)

theorem takes_nothing : Takes 1 fun texts => texts := by
  refine fun whole texts h => ⟨h, fun left => ?_⟩
  simp [Language.mem_one]

theorem takes_never : Takes 0 fun _ => [] := by
  refine fun whole texts h => ⟨.nil whole, fun left => ?_⟩
  simp [Language.notMem_zero]

/-- Starts taken away one after the other are one start. -/
theorem Leaves.comp {first second : List (List Char)} (h : Leaves K texts first) (h' : Leaves L first second) :
    Leaves (K * L) texts second := by
  intro left
  rw [h' left]
  constructor
  · rintro ⟨v, hv, hmem⟩
    obtain ⟨u, hu, hmem⟩ := (h _).mp hmem
    refine ⟨u ++ v, Language.append_mem_mul hu hv, ?_⟩
    rw [List.append_assoc]
    exact hmem
  · rintro ⟨taken, htaken, hmem⟩
    obtain ⟨u, hu, v, hv, rfl⟩ := Language.mem_mul.mp htaken
    rw [List.append_assoc] at hmem
    exact ⟨v, hv, (h _).mpr ⟨u, hu, hmem⟩⟩

theorem Takes.comp (hf : Takes K f) (hg : Takes L g) : Takes (K * L) fun texts => g (f texts) := by
  intro whole texts h
  obtain ⟨hends, hleft⟩ := hf h
  obtain ⟨hends', hleft'⟩ := hg hends
  exact ⟨hends', hleft.comp hleft'⟩

theorem Takes.union (hf : Takes K f) (hg : Takes L g) : Takes (K + L) fun texts => union (f texts) (g texts) := by
  intro whole texts h
  obtain ⟨hends, hleft⟩ := hf h
  obtain ⟨hends', hleft'⟩ := hg h
  refine ⟨ends_union hends hends', fun left => ?_⟩
  rw [mem_union hends hends', hleft left, hleft' left]
  simp only [Language.mem_add, or_and_right, exists_or]

theorem mem_afterOne {p : Char → Bool} : left ∈ afterOne p texts ↔ ∃ c, p c = true ∧ c :: left ∈ texts := by
  unfold afterOne
  rw [List.mem_filterMap]
  constructor
  · rintro ⟨text, hmem, hleft⟩
    split at hleft
    next c rest =>
      split at hleft
      next hp =>
        cases hleft
        exact ⟨c, hp, hmem⟩
      next => cases hleft
    next => cases hleft
  · rintro ⟨c, hp, hmem⟩
    exact ⟨c :: left, hmem, if_pos hp⟩

theorem ends_afterOne {p : Char → Bool} (h : Ends whole texts) : Ends whole (afterOne p texts) := by
  induction texts with
  | nil => exact .nil whole
  | cons text rest ih =>
    have hrest := ih h.tail
    cases text with
    | nil => exact hrest
    | cons c left =>
      unfold afterOne
      rw [List.filterMap_cons]
      by_cases hp : p c = true
      · simp only [if_pos hp]
        refine hrest.cons ((List.suffix_cons c left).trans h.head) fun t ht => ?_
        obtain ⟨d, -, hmem⟩ := mem_afterOne.mp ht
        exact Nat.lt_of_succ_lt_succ (h.lt_head hmem)
      · simp only [if_neg hp]
        exact hrest

theorem takes_single (p : Char → Bool) : Takes (single p) (afterOne p) := by
  refine fun whole texts h => ⟨ends_afterOne h, fun left => mem_afterOne.trans ?_⟩
  constructor
  · rintro ⟨c, hp, hmem⟩
    exact ⟨[c], ⟨c, hp, rfl⟩, hmem⟩
  · rintro ⟨_, ⟨c, hp, rfl⟩, hmem⟩
    exact ⟨c, hp, hmem⟩

theorem takes_anyText : Takes ⊤ fun texts => ((texts.head?).map tails).getD [] := by
  intro whole texts h
  cases texts with
  | nil => exact ⟨.nil whole, fun left => by simp⟩
  | cons text rest =>
    refine ⟨ends_tails h.head, fun left => mem_tails.trans ?_⟩
    constructor
    · rintro ⟨taken, rfl⟩
      exact ⟨taken, trivial, List.mem_cons_self⟩
    · rintro ⟨taken, -, hmem⟩
      -- every other end is an end of the first one, which is the longest
      have hend : taken ++ left <:+ text :=
        List.suffix_of_suffix_length_le (h.suffix _ hmem) h.head (h.length_le hmem)
      exact (List.suffix_append taken left).trans hend

/-! ## Again and again -/

theorem leaves_again (hf : Takes L f) (n : Nat) (h : Ends whole texts) :
    Ends whole (again f n texts) ∧ ∀ left, left ∈ again f n texts ↔
      ∃ pieces : List (List Char), pieces.length ≤ n ∧ (∀ piece ∈ pieces, piece ∈ L) ∧
        pieces.flatten ++ left ∈ texts := by
  -- the pieces that are taken away one after the other, of which there are up to `n`
  induction n generalizing texts with
  | zero =>
    refine ⟨h, fun left => ⟨fun hleft => ⟨[], Nat.le_refl 0, by simp, hleft⟩, ?_⟩⟩
    rintro ⟨pieces, hnone, -, hmem⟩
    rw [List.length_eq_zero_iff.mp (Nat.le_zero.mp hnone)] at hmem
    exact hmem
  | succ n ih =>
    unfold again
    split
    next hempty =>
      rw [List.isEmpty_iff.mp hempty]
      exact ⟨.nil whole, fun left => by simp⟩
    next =>
      obtain ⟨hends, hleft⟩ := hf h
      obtain ⟨hmore, hrest⟩ := ih hends
      refine ⟨ends_union h hmore, fun left => ?_⟩
      rw [mem_union h hmore, hrest left]
      constructor
      · rintro (hmem | ⟨pieces, hn, hpieces, hmem⟩)
        · exact ⟨[], Nat.zero_le _, by simp, hmem⟩
        · obtain ⟨first, hfirst, hmem⟩ := (hleft _).mp hmem
          refine ⟨first :: pieces, Nat.succ_le_succ hn, List.forall_mem_cons.mpr ⟨hfirst, hpieces⟩, ?_⟩
          rw [List.flatten_cons, List.append_assoc]
          exact hmem
      · rintro ⟨pieces, hn, hpieces, hmem⟩
        cases pieces with
        | nil => exact .inl hmem
        | cons first pieces =>
          obtain ⟨hfirst, hpieces⟩ := List.forall_mem_cons.mp hpieces
          rw [List.flatten_cons, List.append_assoc] at hmem
          exact .inr ⟨pieces, Nat.le_of_succ_le_succ hn, hpieces, (hleft _).mpr ⟨first, hfirst, hmem⟩⟩

theorem length_le_length_flatten {pieces : List (List Char)} (nonempty : ∀ piece ∈ pieces, piece ≠ []) :
    pieces.length ≤ pieces.flatten.length := by
  induction pieces with
  | nil => exact Nat.le_refl 0
  | cons piece pieces ih =>
    obtain ⟨hpiece, hpieces⟩ := List.forall_mem_cons.mp nonempty
    have hpos : 0 < piece.length := List.length_pos_iff.mpr hpiece
    have hrest := ih hpieces
    rw [List.flatten_cons, List.length_append, List.length_cons]
    omega

/-- Steps that take a start away need not be done more often than the texts are long. -/
theorem takes_again (hf : Takes L f) (n : Nat) (h : Ends whole texts) (enough : ∀ text ∈ texts, text.length ≤ n) :
    Ends whole (again f n texts) ∧ Leaves L∗ texts (again f n texts) := by
  obtain ⟨hends, hleft⟩ := leaves_again hf n h
  refine ⟨hends, fun left => (hleft left).trans ?_⟩
  constructor
  · rintro ⟨pieces, -, hpieces, hmem⟩
    exact ⟨pieces.flatten, Language.join_mem_kstar hpieces, hmem⟩
  · rintro ⟨taken, htaken, hmem⟩
    -- pieces that are not empty are no more than there are characters
    obtain ⟨pieces, rfl, hpieces⟩ := Language.mem_kstar_iff_exists_nonempty.mp htaken
    have hcount := length_le_length_flatten fun piece hpiece => (hpieces piece hpiece).2
    have hlength := enough _ hmem
    rw [List.length_append] at hlength
    exact ⟨pieces, by omega, fun piece hpiece => (hpieces piece hpiece).1, hmem⟩

theorem takes_star (hf : Takes L f) : Takes L∗ fun texts => again f (((texts.head?).map List.length).getD 0) texts :=
  fun _ _ h => takes_again hf _ h fun _ ht => h.length_le ht

theorem takes_plus (hf : Takes L f) :
    Takes (L * L∗) fun texts => again f (((texts.head?).map List.length).getD 0) (f texts) := by
  intro whole texts h
  obtain ⟨hends, hleft⟩ := hf h
  have henough : ∀ left ∈ f texts, left.length ≤ ((texts.head?).map List.length).getD 0 := by
    intro left hmem
    obtain ⟨taken, -, hmem⟩ := (hleft left).mp hmem
    exact (List.suffix_append taken left).length_le.trans (h.length_le hmem)
  obtain ⟨hends', hleft'⟩ := takes_again hf _ hends henough
  exact ⟨hends', hleft.comp hleft'⟩

/-! ## Everything else -/

/-- Adds up what a step finds for each of some texts. -/
theorem mem_foldl_union {g : List Char → List (List Char)} (ends : ∀ text ∈ texts, Ends whole (g text))
    {found : List (List Char)} (before : Ends whole found) :
    Ends whole (texts.foldl (fun found text => Pattern.union found (g text)) found) ∧
      ∀ left, left ∈ texts.foldl (fun found text => Pattern.union found (g text)) found ↔
        left ∈ found ∨ ∃ text ∈ texts, left ∈ g text := by
  induction texts generalizing found with
  | nil => exact ⟨before, fun left => by simp⟩
  | cons text rest ih =>
    obtain ⟨hfirst, hrest⟩ := List.forall_mem_cons.mp ends
    obtain ⟨hends, hleft⟩ := ih hrest (ends_union before hfirst)
    refine ⟨hends, fun left => ?_⟩
    rw [List.foldl_cons, hleft left, mem_union before hfirst, List.exists_mem_cons_iff, or_assoc]

/-- The ends of a text that are not left of it by a step. -/
def others (f : List (List Char) → List (List Char)) (text : List Char) : List (List Char) :=
  (tails text).filter fun left => !(f [text]).any (·.length = left.length)

theorem mem_others (hf : Takes L f) : left ∈ others f text ↔ ∃ taken ∈ Lᶜ, taken ++ left = text := by
  obtain ⟨hends, hleft⟩ := hf (.single text)
  -- what the step leaves is told apart by its length alone
  have hsame : left <:+ text → ((f [text]).any (·.length = left.length) = true ↔ left ∈ f [text]) := by
    intro hend
    rw [List.any_eq_true]
    constructor
    · rintro ⟨other, hother, hlength⟩
      rw [← eq_of_length (hends.suffix other hother) hend (of_decide_eq_true hlength)]
      exact hother
    · exact fun hmem => ⟨left, hmem, decide_eq_true rfl⟩
  unfold others
  rw [List.mem_filter, mem_tails, Bool.not_eq_true']
  constructor
  · rintro ⟨hend, hnone⟩
    obtain ⟨taken, rfl⟩ := hend
    refine ⟨taken, fun htaken => ?_, rfl⟩
    have hmem : left ∈ f [taken ++ left] := (hleft left).mpr ⟨taken, htaken, List.mem_singleton_self _⟩
    rw [(hsame (List.suffix_append taken left)).mpr hmem] at hnone
    cases hnone
  · rintro ⟨taken, htaken, rfl⟩
    have hend := List.suffix_append taken left
    refine ⟨hend, Bool.eq_false_iff.mpr fun hany => ?_⟩
    obtain ⟨other, hother, hmem⟩ := (hleft left).mp ((hsame hend).mp hany)
    have heq : other = taken := List.append_cancel_right (List.mem_singleton.mp hmem)
    exact htaken (heq ▸ hother)

theorem takes_others (hf : Takes L f) :
    Takes Lᶜ fun texts => texts.foldl (fun found text => Pattern.union found (others f text)) [] := by
  intro whole texts h
  have hends : ∀ text ∈ texts, Ends whole (others f text) := by
    intro text hmem
    have htails := ends_tails (h.suffix text hmem)
    exact ⟨fun t ht => htails.suffix t (List.mem_of_mem_filter ht), htails.shorter.filter _⟩
  obtain ⟨hall, hleft⟩ := mem_foldl_union hends (.nil whole)
  refine ⟨hall, fun left => (hleft left).trans ?_⟩
  constructor
  · rintro (hnone | ⟨text, hmem, hother⟩)
    · cases hnone
    · obtain ⟨taken, htaken, rfl⟩ := (mem_others hf).mp hother
      exact ⟨taken, htaken, hmem⟩
  · rintro ⟨taken, htaken, hmem⟩
    exact .inr ⟨_, hmem, (mem_others hf).mpr ⟨taken, htaken, rfl⟩⟩

/-! ## Patterns -/

mutual

/-- **A part of a pattern takes away what it stands for.** -/
theorem takes_part : ∀ part : PatternPart, Takes (partLanguage part) fun texts => afterPart texts part
  | .exactly c => by
    simp only [afterPart, partLanguage]
    exact takes_single _
  | .anyOne => by
    simp only [afterPart, partLanguage]
    exact takes_single _
  | .anyText => by
    simp only [afterPart, partLanguage]
    exact takes_anyText
  | .oneOf isNegated ranges => by
    simp only [afterPart, partLanguage]
    exact takes_single _
  | .group sign choices => by
    have hchoices := takes_choices choices
    simp only [afterPart, partLanguage]
    split
    next => exact takes_nothing.union hchoices
    next => exact takes_star hchoices
    next => exact takes_plus hchoices
    next => exact hchoices
    next =>
      have hothers := takes_others hchoices
      unfold others at hothers
      simpa only using hothers

/-- So does a pattern. -/
theorem takes_all : ∀ pattern : List PatternPart, Takes (language pattern) fun texts => afterAll texts pattern
  | [] => by
    simp only [afterAll, language]
    exact takes_nothing
  | part :: rest => by
    simp only [afterAll, language]
    exact (takes_part part).comp (takes_all rest)

/-- So do choices. -/
theorem takes_choices : ∀ choices : List (List PatternPart),
    Takes (choiceLanguage choices) fun texts => afterAny texts choices
  | [] => by
    simp only [afterAny, choiceLanguage]
    exact takes_never
  | pattern :: rest => by
    simp only [afterAny, choiceLanguage]
    exact (takes_all pattern).union (takes_choices rest)

end

/-- **A pattern accepts the texts that it stands for.** -/
theorem accepts_iff {pattern : Pattern} : accepts pattern text = true ↔ text ∈ language pattern := by
  obtain ⟨-, hleft⟩ := takes_all pattern (.single text)
  unfold accepts
  rw [List.any_eq_true]
  constructor
  · rintro ⟨left, hmem, hempty⟩
    obtain ⟨taken, htaken, hwhole⟩ := (hleft left).mp hmem
    rw [List.isEmpty_iff.mp hempty, List.append_nil, List.mem_singleton] at hwhole
    exact hwhole ▸ htaken
  · intro hmem
    refine ⟨[], (hleft []).mpr ⟨text, hmem, ?_⟩, rfl⟩
    rw [List.append_nil]
    exact List.mem_singleton_self text

/-! ## Taking a start or an end away -/

/-- The end that is left when as much or as little as possible is taken away. -/
def chosen? (isLongest : Bool) (texts : List (List Char)) : Option (List Char) :=
  if isLongest then texts.getLast? else texts.head?

theorem chosen?_eq_none_iff {isLongest : Bool} : chosen? isLongest texts = none ↔ texts = [] := by
  cases isLongest <;> simp [chosen?]

theorem Ends.chosen (h : Ends whole texts) {isLongest : Bool} (first : chosen? isLongest texts = some text) :
    text ∈ texts ∧ ∀ other ∈ texts, if isLongest then text.length ≤ other.length else other.length ≤ text.length := by
  cases isLongest with
  | true =>
    obtain ⟨before, rfl⟩ := List.getLast?_eq_some_iff.mp first
    refine ⟨List.mem_append_right _ (List.mem_singleton_self text), fun other hother => ?_⟩
    rcases List.mem_append.mp hother with hbefore | hlast
    · exact ((List.pairwise_append.mp h.shorter).2.2 other hbefore text (List.mem_singleton_self text)).le
    · exact (congrArg List.length (List.mem_singleton.mp hlast)).ge
  | false =>
    obtain ⟨rest, rfl⟩ := List.head?_eq_some_iff.mp first
    refine ⟨List.mem_cons_self, fun other hother => ?_⟩
    rcases List.mem_cons.mp hother with rfl | hlater
    · exact Nat.le_refl _
    · exact (h.lt_head hlater).le

/-- **What is taken away from the start of a text** is the longest or the shortest piece that the pattern stands for;
nothing is if it stands for no start. -/
theorem dropStart_spec (isLongest : Bool) (pattern : Pattern) (text : List Char) :
    ((∃ taken ∈ language pattern, taken <+: text) →
      ∃ taken ∈ language pattern, taken ++ dropStart isLongest pattern text = text ∧
        ∀ other ∈ language pattern, other <+: text →
          if isLongest then other.length ≤ taken.length else taken.length ≤ other.length) ∧
    ((¬ ∃ taken ∈ language pattern, taken <+: text) → dropStart isLongest pattern text = text) := by
  obtain ⟨hends, hleft⟩ := takes_all pattern (.single text)
  have hstart : ∀ taken ∈ language pattern, taken <+: text →
      ∃ left ∈ afterAll [text] pattern, taken ++ left = text := by
    rintro taken htaken ⟨left, hwhole⟩
    exact ⟨left, (hleft left).mpr ⟨taken, htaken, List.mem_singleton.mpr hwhole⟩, hwhole⟩
  have hdrop : dropStart isLongest pattern text = (chosen? isLongest (afterAll [text] pattern)).getD text := rfl
  rw [hdrop]
  cases hchosen : chosen? isLongest (afterAll [text] pattern) with
  | none =>
    refine ⟨?_, fun _ => rfl⟩
    rintro ⟨taken, htaken, hend⟩
    obtain ⟨left, hmem, -⟩ := hstart taken htaken hend
    rw [chosen?_eq_none_iff.mp hchosen] at hmem
    cases hmem
  | some left =>
    obtain ⟨hmem, hextreme⟩ := hends.chosen hchosen
    obtain ⟨taken, htaken, hwhole⟩ := (hleft left).mp hmem
    rw [List.mem_singleton] at hwhole
    refine ⟨fun _ => ⟨taken, htaken, hwhole, ?_⟩, fun hnone => absurd ⟨taken, htaken, left, hwhole⟩ hnone⟩
    intro other hother hend
    obtain ⟨rest, hrest, hwhole'⟩ := hstart other hother hend
    have hlength := congrArg List.length (hwhole.trans hwhole'.symm)
    rw [List.length_append, List.length_append] at hlength
    have hcompared := hextreme rest hrest
    cases isLongest with
    | true =>
      simp only [if_true] at hcompared ⊢
      omega
    | false =>
      simp only [Bool.false_eq_true, if_false] at hcompared ⊢
      omega

/-! ### Texts from their ends -/

theorem reverse_single (p : Char → Bool) : (single p).reverse = single p := by
  ext text
  rw [Language.mem_reverse]
  constructor
  · rintro ⟨c, hp, htext⟩
    exact ⟨c, hp, List.reverse_eq_iff.mp htext⟩
  · rintro ⟨c, hp, rfl⟩
    exact ⟨c, hp, rfl⟩

theorem language_append (pattern more : List PatternPart) :
    language (pattern ++ more) = language pattern * language more := by
  induction pattern with
  | nil => simp [language]
  | cons part rest ih => rw [List.cons_append, language, language, ih, mul_assoc]

mutual

theorem partLanguage_reversed : ∀ part : PatternPart, partLanguage (reversedPart part) = (partLanguage part).reverse
  | .exactly c => by
    simp only [reversedPart, partLanguage, reverse_single]
  | .anyOne => by
    simp only [reversedPart, partLanguage, reverse_single]
  | .anyText => by
    simp only [reversedPart, partLanguage]
    rfl
  | .oneOf isNegated ranges => by
    simp only [reversedPart, partLanguage, reverse_single]
  | .group sign choices => by
    have hchoices := choiceLanguage_reversed choices
    simp only [reversedPart, partLanguage, hchoices]
    split
    next => rw [Language.reverse_add, Language.reverse_one]
    next => rw [Language.reverse_kstar]
    next => rw [Language.reverse_mul, Language.reverse_kstar, Language.mul_self_kstar_comm]
    next => rfl
    next => rfl

/-- A pattern for the texts from their ends stands for the texts from their ends. -/
theorem language_reversed : ∀ pattern : List PatternPart, language (reversed pattern) = (language pattern).reverse
  | [] => by
    simp only [reversed, language, Language.reverse_one]
  | part :: rest => by
    simp only [reversed, language, language_append, language_reversed rest, partLanguage_reversed part,
      Language.reverse_mul, mul_one]

theorem choiceLanguage_reversed : ∀ choices : List (List PatternPart),
    choiceLanguage (reversedChoices choices) = (choiceLanguage choices).reverse
  | [] => by
    simp only [reversedChoices, choiceLanguage, Language.reverse_zero]
  | pattern :: rest => by
    simp only [reversedChoices, choiceLanguage, language_reversed pattern, choiceLanguage_reversed rest,
      Language.reverse_add]

end

/-- **What is taken away from the end of a text** likewise. -/
theorem dropEnd_spec (isLongest : Bool) (pattern : Pattern) (text : List Char) :
    ((∃ taken ∈ language pattern, taken <:+ text) →
      ∃ taken ∈ language pattern, dropEnd isLongest pattern text ++ taken = text ∧
        ∀ other ∈ language pattern, other <:+ text →
          if isLongest then other.length ≤ taken.length else taken.length ≤ other.length) ∧
    ((¬ ∃ taken ∈ language pattern, taken <:+ text) → dropEnd isLongest pattern text = text) := by
  have hreversed : ∀ taken, taken ∈ language (reversed pattern) ↔ taken.reverse ∈ language pattern := by
    intro taken
    rw [language_reversed, Language.mem_reverse]
  have hend : (∃ taken ∈ language pattern, taken <:+ text) ↔
      ∃ taken ∈ language (reversed pattern), taken <+: text.reverse := by
    constructor
    · rintro ⟨taken, htaken, hsuffix⟩
      refine ⟨taken.reverse, (hreversed _).mpr ?_, List.reverse_prefix.mpr hsuffix⟩
      rw [List.reverse_reverse]
      exact htaken
    · rintro ⟨taken, htaken, hstart⟩
      refine ⟨taken.reverse, (hreversed _).mp htaken, ?_⟩
      rw [← List.reverse_prefix, List.reverse_reverse]
      exact hstart
  obtain ⟨hsome, hnone⟩ := dropStart_spec isLongest (reversed pattern) text.reverse
  rw [hend]
  unfold dropEnd
  constructor
  · intro h
    obtain ⟨taken, htaken, hwhole, hextreme⟩ := hsome h
    refine ⟨taken.reverse, (hreversed taken).mp htaken, ?_, ?_⟩
    · rw [← List.reverse_append, hwhole, List.reverse_reverse]
    · intro other hother hsuffix
      have hother' : other.reverse ∈ language (reversed pattern) := by
        rw [hreversed, List.reverse_reverse]
        exact hother
      have hcompared := hextreme other.reverse hother' (List.reverse_prefix.mpr hsuffix)
      rw [List.length_reverse] at hcompared ⊢
      exact hcompared
  · intro h
    rw [hnone h, List.reverse_reverse]

end BatchJob.Machine.Pattern
