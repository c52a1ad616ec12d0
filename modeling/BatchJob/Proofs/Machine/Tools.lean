import Mathlib.Algebra.Order.Field.Basic
import Mathlib.Algebra.Order.Field.Rat
import Mathlib.Tactic.Positivity
import BatchJob.Machine.Programs.Passing
import BatchJob.Machine.Programs.Sorting

/-!
# What the tools make of texts

Two of the system's programs pass on the first and the last part of a text: what the one leaves out the other passes on
(`firstPart_append_lastPart`). One puts lines in order: it keeps all of them, or one of each, and finds nothing out of
order in them afterwards (`sort_spec`). This takes that it compares lines in a way that is an order (`transCmp_order`).
-/

namespace BatchJob.Machine.Programs

/-! ## Parts of texts -/

theorem firstLines_start (ending : Char) (n : Nat) (text : List Char) : firstLines ending n text <+: text := by
  fun_induction firstLines ending n text with
  | case1 text => exact List.nil_prefix
  | case2 n h => exact List.nil_prefix
  | case3 n c rest ih => exact (List.prefix_cons_inj c).mpr ih

/-- A text is its first lines and the rest. -/
theorem firstLines_append_drop (ending : Char) (n : Nat) (text : List Char) :
    firstLines ending n text ++ text.drop (firstLines ending n text).length = text :=
  List.prefix_iff_eq_append.mp (firstLines_start ending n text)

theorem lineCount_pos (ending : Char) {text : List Char} (nonempty : text ≠ []) : 0 < lineCount ending text := by
  obtain ⟨last, hlast⟩ := Option.ne_none_iff_exists'.mp (mt List.getLast?_eq_none_iff.mp nonempty)
  unfold lineCount
  rw [hlast, Option.any_some]
  by_cases h : last = ending
  · exact Nat.add_pos_left (List.count_pos_iff.mpr (h ▸ List.mem_of_getLast? hlast)) _
  · simp [h]

theorem lineCount_cons (ending c : Char) (rest : List Char) :
    lineCount ending (c :: rest) =
      if c = ending then lineCount ending rest + 1 else max 1 (lineCount ending rest) := by
  cases rest with
  | nil =>
    by_cases h : c = ending <;> simp [lineCount, h]
  | cons d rest =>
    have hlast : (c :: d :: rest).getLast? = (d :: rest).getLast? := List.getLast?_cons_cons
    have hsome : 0 < lineCount ending (d :: rest) := lineCount_pos ending (List.cons_ne_nil d rest)
    unfold lineCount at hsome ⊢
    rw [hlast, List.count_cons]
    by_cases h : c = ending
    · simp only [h, beq_self_eq_true, if_true]
      omega
    · simp only [beq_iff_eq, h, if_false]
      omega

/-- **There are as many first lines as are asked for, if there are as many.** -/
theorem lineCount_firstLines (ending : Char) (n : Nat) (text : List Char) :
    lineCount ending (firstLines ending n text) = min n (lineCount ending text) := by
  fun_induction firstLines ending n text with
  | case1 text => simp [lineCount]
  | case2 n h => simp [lineCount]
  | case3 n c rest ih =>
    rw [lineCount_cons, lineCount_cons, ih]
    split <;> omega

/-- **What comes first and what comes last are the whole text**: the first part and the part from the one behind it on,
and the first part up to the last one and the last part, be they counted in bytes or in lines. -/
theorem firstPart_append_lastPart (isBytes : Bool) (n : Nat) (ending : Char) (text : List Char) :
    firstPart ⟨isBytes, n, false⟩ ending text ++ lastPart ⟨isBytes, n + 1, true⟩ ending text = text ∧
      firstPart ⟨isBytes, n, true⟩ ending text ++ lastPart ⟨isBytes, n, false⟩ ending text = text := by
  unfold firstPart lastPart
  cases isBytes with
  | true => exact ⟨List.take_append_drop _ text, List.take_append_drop _ text⟩
  | false => exact ⟨firstLines_append_drop ending _ text, firstLines_append_drop ending _ text⟩

/-! ## Orders of lines -/

namespace Sorting

variable {plan : Plan} {cmp : List Char → List Char → Ordering}

/-- Texts are compared character by character. -/
theorem orderTexts_eq (a b : List Char) : orderTexts a b = List.compareLex compare a b := by
  fun_induction orderTexts a b with
  | case1 => rfl
  | case2 b h =>
    cases b with
    | nil => exact absurd rfl h
    | cons => rfl
  | case3 a h =>
    cases a with
    | nil => exact absurd rfl h
    | cons => rfl
  | case4 as c bs ih =>
    have hcompare : compare c c = .eq := Std.ReflCmp.compare_self
    rw [List.compareLex_cons_cons, hcompare, ih]
    rfl
  | case5 a as b bs hne hlt =>
    have hcompare : compare a b = .lt := if_pos hlt
    rw [List.compareLex_cons_cons, hcompare]
    rfl
  | case6 a as b bs hne hnlt =>
    have hcompare : compare a b = .gt := (if_neg hnlt).trans (if_neg hne)
    rw [List.compareLex_cons_cons, hcompare]
    rfl

instance : Std.TransCmp orderTexts := by
  rw [show orderTexts = List.compareLex compare from funext fun a => funext fun b => orderTexts_eq a b]
  infer_instance

/-- Comparing by something that is worked out is an order if comparing that is. -/
theorem transCmp_comap {α β : Type} {cmp : β → β → Ordering} (h : Std.TransCmp cmp) (f : α → β) :
    Std.TransCmp fun a b => cmp (f a) (f b) where
  eq_swap := h.eq_swap
  isLE_trans := h.isLE_trans

theorem transCmp_swap {α : Type} {cmp : α → α → Ordering} (h : Std.TransCmp cmp) :
    Std.TransCmp fun a b => (cmp a b).swap := by
  rw [show (fun a b => (cmp a b).swap) = fun a b => cmp b a from funext fun a => funext fun b => h.eq_swap.symm]
  infer_instance

/-- The digits of a number as a whole number, and the value of the number. -/
def Number.signed (n : Number) : ℤ :=
  if n.isNegative then -(n.digits : ℤ) else n.digits
def Number.value (n : Number) : ℚ :=
  n.signed / 10 ^ n.places

theorem compare_congr {α β : Type} [LinearOrder α] [LinearOrder β] {a b : α} {c d : β} (lt : a < b ↔ c < d)
    (gt : b < a ↔ d < c) : compare a b = compare c d := by
  rcases lt_trichotomy a b with h | rfl | h
  · rw [compare_lt_iff_lt.mpr h, compare_lt_iff_lt.mpr (lt.mp h)]
  · have heq : c = d := le_antisymm (not_lt.mp (mt gt.mpr (lt_irrefl a))) (not_lt.mp (mt lt.mpr (lt_irrefl a)))
    rw [heq, compare_eq_iff_eq.mpr rfl, compare_eq_iff_eq.mpr rfl]
  · rw [compare_gt_iff_gt.mpr h, compare_gt_iff_gt.mpr (gt.mp h)]

/-- Numbers are compared by their values. -/
theorem Number.order_eq (a b : Number) : a.order b = compare a.value b.value := by
  have hscaled (n : Number) (others : Nat) :
      (if n.isNegative then -((n.digits * Nat.pow 10 others : Nat) : ℤ) else (n.digits * Nat.pow 10 others : Nat)) =
        n.signed * 10 ^ others := by
    have hmagnitude : ((n.digits * Nat.pow 10 others : Nat) : ℤ) = n.digits * 10 ^ others := by
      rw [Nat.cast_mul]
      exact congrArg _ (Nat.cast_pow 10 others)
    rw [hmagnitude]
    unfold Number.signed
    split
    next => rw [neg_mul]
    next => rfl
  have hlt (a b : Number) : a.signed * 10 ^ b.places < b.signed * 10 ^ a.places ↔ a.value < b.value := by
    unfold Number.value
    rw [div_lt_div_iff₀ (by positivity) (by positivity)]
    exact_mod_cast Iff.rfl
  show compare (if a.isNegative then _ else _) (if b.isNegative then _ else _) = _
  rw [hscaled a b.places, hscaled b a.places]
  exact compare_congr (hlt a b) (hlt b a)

theorem transCmp_number : Std.TransCmp Number.order := by
  rw [show Number.order = fun a b => compare a.value b.value from funext fun a => funext fun b => a.order_eq b]
  exact transCmp_comap inferInstance Number.value

theorem transCmp_then {α : Type} {cmp cmp' : α → α → Ordering} (h : Std.TransCmp cmp) (h' : Std.TransCmp cmp') :
    Std.TransCmp fun a b => (cmp a b).then (cmp' a b) :=
  inferInstanceAs (Std.TransCmp (compareLex cmp cmp'))

/-- Parts of lines are in an order, except perhaps general numbers and versions. -/
theorem transCmp_rule (rule : Rule) (plain : rule.kind ≠ .general ∧ rule.kind ≠ .version) :
    Std.TransCmp rule.order := by
  have hforward : ∃ cmp, Std.TransCmp cmp ∧
      rule.order = fun a b => if rule.reverses then (cmp a b).swap else cmp a b := by
    unfold Rule.order
    cases hkind : rule.kind with
    | text => exact ⟨_, transCmp_comap inferInstance rule.counted, rfl⟩
    | numeric => exact ⟨_, transCmp_comap transCmp_number fun text => (takeNumber text).1, rfl⟩
    | human =>
      exact ⟨_, transCmp_then (transCmp_comap inferInstance fun text => (takeHuman text).2)
        (transCmp_comap transCmp_number fun text => (takeHuman text).1), rfl⟩
    | month => exact ⟨_, transCmp_comap inferInstance monthOf, rfl⟩
    | general => exact absurd hkind plain.1
    | version => exact absurd hkind plain.2
  obtain ⟨cmp, hcmp, horder⟩ := hforward
  rw [horder]
  cases rule.reverses with
  | true => exact transCmp_swap hcmp
  | false => exact hcmp

theorem transCmp_foldl {cmp : List Char → List Char → Ordering} (h : Std.TransCmp cmp) (separator : Option Char)
    (keys : List Key) (each : ∀ key ∈ keys, Std.TransCmp key.rule.order) :
    Std.TransCmp fun a b => keys.foldl (fun order key =>
      order.then (key.rule.order (key.part separator a) (key.part separator b))) (cmp a b) := by
  induction keys generalizing cmp with
  | nil => exact h
  | cons key keys ih =>
    obtain ⟨hkey, hkeys⟩ := List.forall_mem_cons.mp each
    exact ih (transCmp_then h (transCmp_comap hkey (key.part separator))) hkeys

/-- **A way to put lines in order is one** if each of its keys is compared in an order. -/
theorem transCmp_order (keys : ∀ key ∈ plan.keys, Std.TransCmp key.rule.order) : Std.TransCmp plan.order := by
  have hwhole : Std.TransCmp fun a b => if plan.reverses then (orderTexts a b).swap else orderTexts a b := by
    cases plan.reverses with
    | true => exact transCmp_swap inferInstance
    | false => exact inferInstanceAs (Std.TransCmp orderTexts)
  have hnone : Std.TransCmp fun _ _ : List Char => Ordering.eq := { eq_swap := rfl, isLE_trans := fun _ _ => rfl }
  have hkeys : Std.TransCmp plan.orderByKeys := transCmp_foldl hnone plan.separator plan.keys keys
  unfold Plan.order
  cases plan.keys.isEmpty with
  | true => exact hwhole
  | false =>
    cases plan.isStable || plan.isUnique with
    | true => exact hkeys
    | false => exact transCmp_then hkeys hwhole

/-! ## Lines in order -/

theorem distinct_sublist (lines : List (List Char)) : (plan.distinct lines).Sublist lines := by
  induction lines with
  | nil => exact .slnil
  | cons first rest ih =>
    unfold Plan.distinct
    split
    next => exact (List.nil_sublist rest).cons_cons first
    next second others hdistinct =>
      rw [hdistinct] at ih
      split
      next => exact ((List.sublist_cons_self second others).trans ih).cons_cons first
      next => exact ih.cons_cons first

/-- Lines that are in order are so strictly once those that are alike are left out. -/
theorem distinct_strict [Std.TransCmp plan.order] {lines : List (List Char)}
    (ordered : lines.Pairwise fun a b => (plan.order a b).isLE) :
    (plan.distinct lines).Pairwise fun a b => plan.order a b = .lt := by
  induction lines with
  | nil => exact .nil
  | cons first rest ih =>
    obtain ⟨hfirst, hrest⟩ := List.pairwise_cons.mp ordered
    have hsecond := ih hrest
    have hmem : ∀ line ∈ plan.distinct rest, line ∈ rest := fun _ h => (distinct_sublist rest).subset h
    unfold Plan.distinct
    split
    next => exact List.pairwise_singleton _ first
    next second others hdistinct =>
      rw [hdistinct] at hsecond hmem
      obtain ⟨hothers, hstrict⟩ := List.pairwise_cons.mp hsecond
      split
      next heq =>
        exact List.pairwise_cons.mpr ⟨fun other h => Std.TransCmp.lt_of_eq_of_lt heq (hothers other h), hstrict⟩
      next hne =>
        have hlt : plan.order first second = .lt := by
          have hle := hfirst second (hmem second List.mem_cons_self)
          revert hle hne
          cases plan.order first second <;> simp
        refine List.pairwise_cons.mpr ⟨fun other h => ?_, hsecond⟩
        rcases List.mem_cons.mp h with rfl | h
        · exact hlt
        · exact Std.TransCmp.lt_trans hlt (hothers other h)

/-- The first line stays. -/
theorem first_mem_distinct (first : List Char) (rest : List (List Char)) : first ∈ plan.distinct (first :: rest) := by
  unfold Plan.distinct
  split
  next => exact List.mem_cons_self
  next => split <;> exact List.mem_cons_self

/-- Of every line that is left out a line that is like it stays. -/
theorem exists_mem_distinct [Std.TransCmp plan.order] {lines : List (List Char)} {line : List Char}
    (mem : line ∈ lines) : ∃ kept ∈ plan.distinct lines, plan.order line kept = .eq := by
  induction lines with
  | nil => cases mem
  | cons first rest ih =>
    rcases List.mem_cons.mp mem with rfl | hlater
    · exact ⟨line, first_mem_distinct line rest, Std.ReflCmp.compare_self⟩
    obtain ⟨kept, hkept, halike⟩ := ih hlater
    unfold Plan.distinct
    split
    next hnone =>
      rw [hnone] at hkept
      cases hkept
    next second others hdistinct =>
      rw [hdistinct] at hkept
      split
      next heq =>
        -- the second line goes, and the first one is like it
        rcases List.mem_cons.mp hkept with rfl | hother
        · exact ⟨first, List.mem_cons_self, Std.TransCmp.eq_trans halike (Std.OrientedCmp.eq_symm heq)⟩
        · exact ⟨kept, List.mem_cons_of_mem _ hother, halike⟩
      next => exact ⟨kept, List.mem_cons_of_mem _ hkept, halike⟩

theorem disorder?_eq_none {lines : List (List Char)} (number : Nat)
    (ordered : lines.Pairwise fun a b => plan.order a b ≠ .gt ∧ (plan.isUnique = true → plan.order a b ≠ .eq)) :
    plan.disorder? number lines = none := by
  induction lines generalizing number with
  | nil => rfl
  | cons first rest ih =>
    obtain ⟨hfirst, hrest⟩ := List.pairwise_cons.mp ordered
    cases rest with
    | nil => rfl
    | cons second others =>
      obtain ⟨hle, hdistinct⟩ := hfirst second List.mem_cons_self
      unfold Plan.disorder?
      have hfine : ¬ ((plan.order first second = .gt || (plan.isUnique && plan.order first second = .eq)) = true) := by
        simpa [hle] using hdistinct
      simp only [if_neg hfine]
      exact ih _ hrest

/-- Nothing is out of order in lines that were put in order. -/
theorem disorder?_sort [Std.TransCmp plan.order] (number : Nat) (lines : List (List Char)) :
    plan.disorder? number (plan.sort lines) = none := by
  have hisLE (a b : List Char) : (plan.order a b != .gt) = (plan.order a b).isLE := by
    cases plan.order a b <;> rfl
  have hsorted : (lines.mergeSort fun a b => plan.order a b != .gt).Pairwise fun a b => (plan.order a b).isLE := by
    simp only [hisLE]
    refine List.pairwise_mergeSort (fun a b c => Std.TransCmp.isLE_trans) (fun a b => ?_) lines
    have hswap : plan.order b a = (plan.order a b).swap := Std.OrientedCmp.eq_swap
    rw [hswap]
    cases plan.order a b <;> rfl
  apply disorder?_eq_none
  unfold Plan.sort
  cases plan.isUnique with
  | true =>
    simp only [if_true]
    exact (distinct_strict hsorted).imp fun h => by simp [h]
  | false =>
    simp only [Bool.false_eq_true, if_false, false_implies, and_true]
    refine hsorted.imp fun h hgt => ?_
    rw [hgt] at h
    cases h

/-- **Lines are put in order**, in all ways that compare neither general numbers nor versions: nothing is found out of
order in them afterwards, by the same way to compare them; they are the same lines, or those of them that are left when
each is to stand there once; and of every line one that is like it stays. -/
theorem sort_spec (plan : Plan) (plain : ∀ key ∈ plan.keys, key.rule.kind ≠ .general ∧ key.rule.kind ≠ .version)
    (number : Nat) (lines : List (List Char)) :
    plan.disorder? number (plan.sort lines) = none ∧
      (plan.isUnique = false → (plan.sort lines).Perm lines) ∧
      (∀ line ∈ plan.sort lines, line ∈ lines) ∧
      ∀ line ∈ lines, ∃ kept ∈ plan.sort lines, plan.order line kept = .eq := by
  have horder : Std.TransCmp plan.order := transCmp_order fun key hkey => transCmp_rule key.rule (plain key hkey)
  have hperm : (lines.mergeSort fun a b => plan.order a b != .gt).Perm lines := List.mergeSort_perm _ _
  refine ⟨disorder?_sort number lines, ?_, ?_, ?_⟩ <;> unfold Plan.sort
  · intro hevery
    rw [hevery]
    exact hperm
  · intro line hline
    split at hline
    next => exact hperm.subset ((distinct_sublist _).subset hline)
    next => exact hperm.subset hline
  · intro line hline
    split
    next => exact exists_mem_distinct (hperm.mem_iff.mpr hline)
    next => exact ⟨line, hperm.mem_iff.mpr hline, Std.ReflCmp.compare_self⟩

end Sorting

end BatchJob.Machine.Programs
