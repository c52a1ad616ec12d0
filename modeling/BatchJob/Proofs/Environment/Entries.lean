import BatchJob.Environment
import BatchJob.Proofs.Text.Blank

/-!
# The entries of an environment

`IsEntry` says when an entry gives a key a value, without saying how it is parted. The effective value of a key is the
one in its last entry (`get?_eq_some_iff`), and a key without an entry has none (`get?_eq_none_iff`).
-/

namespace BatchJob.Environment

open Text

/-- An entry that is well formed: a key that is not empty and has no equals sign in it, then an equals sign and the
value, whatever is in it. -/
structure IsEntry (entry key value : String) : Prop where
  nonempty : key ≠ ""
  noEquals : '=' ∉ key.toList
  text : entry = key ++ "=" ++ value

variable {entry key value : String} {entries : List String}

/-- An entry is parted into its key and its value. -/
theorem keyValue?_eq_some_iff : keyValue? entry = some (key, value) ↔ IsEntry entry key value := by
  constructor
  · intro h
    unfold keyValue? at h
    split at h
    · cases h
    · cases h
    · next name rest hname hsplit =>
      cases h
      obtain ⟨c, hentry, hc, hclean⟩ := splitAtFirst_eq_some_iff.mp hsplit
      obtain rfl : c = '=' := beq_iff_eq.mp hc
      refine ⟨?_, ?_, ?_⟩
      · intro hempty
        have hnil : name = [] := by simpa using congrArg String.toList hempty
        exact hname hnil
      · intro hmem
        rw [String.toList_ofList] at hmem
        have hdiffers := hclean '=' hmem
        cases hdiffers
      · rw [← String.toList_inj, hentry]
        simp
  · intro h
    have hsplit : splitAtFirst (· == '=') entry.toList = (key.toList, some value.toList) := by
      refine splitAtFirst_eq_some_iff.mpr ⟨'=', ?_, rfl, ?_⟩
      · rw [h.text]
        simp
      · intro c hc
        exact beq_eq_false_iff_ne.mpr fun heq => h.noEquals (heq ▸ hc)
    unfold keyValue?
    rw [hsplit]
    cases hkey : key.toList with
    | nil => exact absurd (String.toList_inj.mp hkey) h.nonempty
    | cons c rest => simp only [← hkey, String.ofList_toList]

/-- An entry that is not well formed has no key. -/
theorem keyValue?_eq_none_iff : keyValue? entry = none ↔ ∀ key value, ¬ IsEntry entry key value := by
  constructor
  · intro h key value hentry
    rw [keyValue?_eq_some_iff.mpr hentry] at h
    cases h
  · intro h
    cases hparted : keyValue? entry with
    | none => rfl
    | some pair => exact absurd (keyValue?_eq_some_iff.mp hparted) (h pair.1 pair.2)

/-- An entry has one key and one value. -/
theorem IsEntry.unique {key' value' : String} (h : IsEntry entry key value) (h' : IsEntry entry key' value') :
    key' = key ∧ value' = value := by
  have hsame := (keyValue?_eq_some_iff.mpr h').symm.trans (keyValue?_eq_some_iff.mpr h)
  cases hsame
  exact ⟨rfl, rfl⟩

/-! ## The value of a key -/

/-- The value that an entry gives a key. -/
def valueFor? (key entry : String) : Option String :=
  match keyValue? entry with
  | some (k, v) => if k = key then some v else none
  | none => none

theorem valueFor?_eq_some_iff : valueFor? key entry = some value ↔ IsEntry entry key value := by
  unfold valueFor?
  rw [← keyValue?_eq_some_iff]
  cases keyValue? entry with
  | none => simp
  | some pair =>
    obtain ⟨k, v⟩ := pair
    by_cases hk : k = key
    · simp [hk]
    · simp [hk]

theorem valueFor?_eq_none_iff : valueFor? key entry = none ↔ ∀ value, ¬ IsEntry entry key value := by
  rw [Option.eq_none_iff_forall_ne_some]
  simp only [ne_eq, valueFor?_eq_some_iff]

theorem get?_eq (env : Environment) (key : String) :
    env.get? key = env.entries.reverse.findSome? (valueFor? key) := rfl

/-- **The last entry of a key gives its value.** -/
theorem get?_eq_some_iff :
    get? ⟨entries⟩ key = some value ↔
      ∃ earlier entry later, entries = earlier ++ entry :: later ∧ IsEntry entry key value ∧
        ∀ other ∈ later, ∀ v, ¬ IsEntry other key v := by
  rw [get?_eq, List.findSome?_eq_some_iff]
  simp only [valueFor?_eq_some_iff, valueFor?_eq_none_iff]
  constructor
  · rintro ⟨later, entry, earlier, hentries, hentry, hlater⟩
    refine ⟨earlier.reverse, entry, later.reverse, ?_, hentry, ?_⟩
    · rw [← List.reverse_inj, hentries]
      simp
    · intro other hother
      exact hlater other (List.mem_reverse.mp hother)
  · rintro ⟨earlier, entry, later, rfl, hentry, hlater⟩
    refine ⟨later.reverse, entry, earlier.reverse, by simp, hentry, ?_⟩
    intro other hother
    exact hlater other (List.mem_reverse.mp hother)

/-- **A key without an entry has no value.** -/
theorem get?_eq_none_iff :
    get? ⟨entries⟩ key = none ↔ ∀ entry ∈ entries, ∀ value, ¬ IsEntry entry key value := by
  rw [get?_eq, List.findSome?_eq_none_iff]
  simp only [valueFor?_eq_none_iff, List.mem_reverse]

/-- Later entries count before earlier ones. -/
theorem get?_append (earlier later : List String) (key : String) :
    get? ⟨earlier ++ later⟩ key = (get? ⟨later⟩ key).or (get? ⟨earlier⟩ key) := by
  simp only [get?_eq, List.reverse_append, List.findSome?_append]

theorem get?_single (entry key : String) : get? ⟨[entry]⟩ key = valueFor? key entry := by
  rw [get?_eq, List.reverse_singleton, List.findSome?_singleton]

end BatchJob.Environment
