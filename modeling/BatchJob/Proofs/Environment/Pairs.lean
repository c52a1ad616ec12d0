import Mathlib.Data.List.Induction
import BatchJob.Proofs.Environment.Entries
import BatchJob.Proofs.Lifecycle.Calls

/-!
# The pairs of an environment

The supervisor looks a key up among the entries from the last one on; the child gets pairs that are collected from the
first entry on. `Resolved` says what ties the two together. One more entry keeps it (`Resolved.concat`), and so it
holds of the pairs of every environment (`resolved_pairs`). The main statement is `pairs_resolve`.
-/

namespace BatchJob.Environment

variable {entry key value : String} {entries : List String} {pairs : List (String × String)}

/-! ## Setting a pair -/

theorem lookup_cons_ne {k v : String} (h : key ≠ k) : List.lookup key ((k, v) :: pairs) = pairs.lookup key := by
  rw [List.lookup_cons, beq_eq_false_iff_ne.mpr h]

theorem lookup_setPair (pairs : List (String × String)) (key value other : String) :
    (setPair pairs key value).lookup other = if other = key then some value else pairs.lookup other := by
  induction pairs with
  | nil =>
    rw [setPair]
    by_cases h : other = key
    · rw [if_pos h, h, List.lookup_cons_self]
    · rw [if_neg h, lookup_cons_ne h]
  | cons pair rest ih =>
    obtain ⟨k, v⟩ := pair
    rw [setPair]
    by_cases hk : k = key
    · subst hk
      rw [if_pos rfl]
      by_cases h : other = k
      · rw [if_pos h, h, List.lookup_cons_self]
      · rw [if_neg h, lookup_cons_ne h, lookup_cons_ne h]
    · rw [if_neg hk]
      by_cases h : other = k
      · subst h
        rw [if_neg hk, List.lookup_cons_self, List.lookup_cons_self]
      · rw [lookup_cons_ne h, lookup_cons_ne h, ih]

/-- A key that is there stays where it is, and a new one comes last. -/
theorem keys_setPair (pairs : List (String × String)) (key value : String) :
    (setPair pairs key value).map Prod.fst =
      if key ∈ pairs.map Prod.fst then pairs.map Prod.fst else pairs.map Prod.fst ++ [key] := by
  induction pairs with
  | nil => rfl
  | cons pair rest ih =>
    obtain ⟨k, v⟩ := pair
    rw [setPair]
    by_cases hk : k = key
    · subst hk
      simp
    · rw [if_neg hk, List.map_cons, ih]
      have hne : key ≠ k := fun h => hk h.symm
      by_cases hmem : key ∈ rest.map Prod.fst
      · simp [hmem]
      · simp [hmem, hne]

/-- A key without a pair is found nowhere. -/
theorem lookup_eq_none_iff : pairs.lookup key = none ↔ key ∉ pairs.map Prod.fst := by
  rw [List.lookup_eq_none_iff]
  simp only [bne_iff_ne, ne_eq, List.mem_map, not_exists, not_and]
  constructor
  · intro h pair hpair heq
    exact h pair hpair heq.symm
  · intro h pair hpair heq
    exact h pair hpair heq.symm

/-! ## The pairs of the entries -/

/-- The pairs of some entries and one more. -/
theorem pairs_concat (entries : List String) (entry : String) :
    Environment.pairs ⟨entries ++ [entry]⟩ =
      match keyValue? entry with
      | some (key, value) => setPair (Environment.pairs ⟨entries⟩) key value
      | none => Environment.pairs ⟨entries⟩ := by
  unfold Environment.pairs
  rw [List.filterMap_append, List.foldl_append]
  cases hentry : keyValue? entry with
  | none => simp [hentry]
  | some pair => simp [hentry]

/-- In some entries, one key has an entry before another one has its first. -/
def Precedes (entries : List String) (first second : String) : Prop :=
  ∃ earlier later, entries = earlier ++ later ∧ (∃ entry ∈ earlier, ∃ value, IsEntry entry first value) ∧
    ∀ entry ∈ earlier, ∀ value, ¬ IsEntry entry second value

theorem Precedes.append {first second : String} (h : Precedes entries first second) (more : List String) :
    Precedes (entries ++ more) first second := by
  obtain ⟨earlier, later, rfl, hfirst, hsecond⟩ := h
  exact ⟨earlier, later ++ more, List.append_assoc _ _ _, hfirst, hsecond⟩

/-- What makes pairs those of some entries: no key comes twice, each key has its effective value, and the keys stand in
the order of their first entries. -/
structure Resolved (entries : List String) (pairs : List (String × String)) : Prop where
  distinct : (pairs.map Prod.fst).Nodup
  lookup : ∀ key, pairs.lookup key = get? ⟨entries⟩ key
  ordered : (pairs.map Prod.fst).Pairwise (Precedes entries)

/-- A key with a pair has an entry. -/
theorem Resolved.exists_isEntry (h : Resolved entries pairs) (mem : key ∈ pairs.map Prod.fst) :
    ∃ entry ∈ entries, ∃ value, IsEntry entry key value := by
  have hlookup : pairs.lookup key ≠ none := by
    rw [ne_eq, lookup_eq_none_iff, not_not]
    exact mem
  rw [h.lookup] at hlookup
  obtain ⟨value, hvalue⟩ := Option.ne_none_iff_exists'.mp hlookup
  obtain ⟨earlier, entry, later, rfl, hentry, -⟩ := get?_eq_some_iff.mp hvalue
  exact ⟨entry, by simp, value, hentry⟩

/-- A key without a pair has no entry. -/
theorem Resolved.not_isEntry (h : Resolved entries pairs) (fresh : key ∉ pairs.map Prod.fst) :
    ∀ entry ∈ entries, ∀ value, ¬ IsEntry entry key value := by
  rw [← get?_eq_none_iff, ← h.lookup]
  exact lookup_eq_none_iff.mpr fresh

/-- One more entry that is not well formed changes nothing. -/
theorem Resolved.concat_none (h : Resolved entries pairs) (hentry : keyValue? entry = none) :
    Resolved (entries ++ [entry]) pairs := by
  refine ⟨h.distinct, ?_, h.ordered.imp fun hprecedes => hprecedes.append [entry]⟩
  intro key
  rw [get?_append, get?_single, h.lookup, valueFor?_eq_none_iff.mpr (keyValue?_eq_none_iff.mp hentry key)]
  rfl

/-- **One more entry sets the pair of its key.** -/
theorem Resolved.concat (h : Resolved entries pairs) (hentry : IsEntry entry key value) :
    Resolved (entries ++ [entry]) (setPair pairs key value) := by
  refine ⟨?_, ?_, ?_⟩
  · rw [keys_setPair]
    split
    · exact h.distinct
    · next fresh =>
      rw [List.nodup_append]
      refine ⟨h.distinct, List.nodup_cons.mpr ⟨List.not_mem_nil, List.nodup_nil⟩, ?_⟩
      intro k hk other hother heq
      rw [List.mem_singleton] at hother
      exact fresh (hother ▸ heq ▸ hk)
  · intro other
    rw [lookup_setPair, get?_append, get?_single, h.lookup]
    by_cases hother : other = key
    · rw [if_pos hother, hother, valueFor?_eq_some_iff.mpr hentry]
      rfl
    · have hnone : valueFor? other entry = none := by
        rw [valueFor?_eq_none_iff]
        intro v hv
        exact hother (hentry.unique hv).1
      rw [if_neg hother, hnone]
      rfl
  · have hkept : (pairs.map Prod.fst).Pairwise (Precedes (entries ++ [entry])) :=
      h.ordered.imp fun hprecedes => hprecedes.append [entry]
    rw [keys_setPair]
    split
    · exact hkept
    · next fresh =>
      -- The entries so far are the ones in which every other key has an entry and the new one has none.
      rw [List.pairwise_append]
      refine ⟨hkept, List.pairwise_singleton _ key, ?_⟩
      intro k hk other hother
      obtain rfl := List.mem_singleton.mp hother
      exact ⟨entries, [entry], rfl, h.exists_isEntry hk, h.not_isEntry fresh⟩

/-- **The pairs of an environment are those of its entries.** -/
theorem resolved_pairs (entries : List String) : Resolved entries (Environment.pairs ⟨entries⟩) := by
  induction entries using List.reverseRecOn with
  | nil => exact ⟨List.nodup_nil, fun _ => rfl, List.Pairwise.nil⟩
  | append_singleton entries entry ih =>
    rw [pairs_concat]
    cases hentry : keyValue? entry with
    | none => exact ih.concat_none hentry
    | some pair => exact ih.concat (keyValue?_eq_some_iff.mp hentry)

/-- An entry that is not well formed is as good as absent. -/
theorem without_malformed (earlier later : List String) (h : ∀ key value, ¬ IsEntry entry key value) :
    Environment.pairs ⟨earlier ++ entry :: later⟩ = Environment.pairs ⟨earlier ++ later⟩ ∧
      ∀ key, get? ⟨earlier ++ entry :: later⟩ key = get? ⟨earlier ++ later⟩ key := by
  have hentry : keyValue? entry = none := keyValue?_eq_none_iff.mpr h
  constructor
  · unfold Environment.pairs
    simp [hentry]
  · intro key
    have hnone : get? ⟨[entry]⟩ key = none := by
      rw [get?_single]
      exact valueFor?_eq_none_iff.mpr (h key)
    rw [← List.singleton_append, get?_append, get?_append [entry], get?_append, hnone, Option.or_none]

/-- **What the child is given is what the supervisor goes by.** The pairs of an environment have distinct keys, which
are not empty and have no equals sign in them; a key is paired with its effective value, and with none if it has none;
the keys stand in the order of their first well-formed entries; and an entry that is not well formed has no part in
either view. The launcher is handed just these pairs. -/
theorem pairs_resolve (account : Account) (stdenv : Option String) :
    let env := build account stdenv
    (env.pairs.map Prod.fst).Nodup ∧
    (∀ key ∈ env.pairs.map Prod.fst, key ≠ "" ∧ '=' ∉ key.toList) ∧
    (∀ key, env.pairs.lookup key = env.get? key) ∧
    (env.pairs.map Prod.fst).Pairwise (Precedes env.entries) ∧
    (∀ earlier entry later, (∀ key value, ¬ IsEntry entry key value) →
      Environment.pairs ⟨earlier ++ entry :: later⟩ = Environment.pairs ⟨earlier ++ later⟩ ∧
        ∀ key, get? ⟨earlier ++ entry :: later⟩ key = get? ⟨earlier ++ later⟩ key) ∧
    ∀ {σ : Type} (L : Launcher σ) (s : Lifecycle σ) (program : List String), ∃ request,
      (s.spawn L program account env).2.calls = .spawn request :: s.calls ∧ request.environment = env.pairs := by
  intro env
  have hresolved : Resolved env.entries env.pairs := resolved_pairs env.entries
  refine ⟨hresolved.distinct, ?_, hresolved.lookup, hresolved.ordered, ?_, ?_⟩
  · intro key hkey
    obtain ⟨entry, -, value, hentry⟩ := hresolved.exists_isEntry hkey
    exact ⟨hentry.nonempty, hentry.noEquals⟩
  · intro earlier entry later hentry
    exact without_malformed earlier later hentry
  · intro σ L s program
    exact ⟨_, (s.spawn_requestFor L program account env).2.2, rfl⟩

/-- A key that STDENV sets twice, with an entry between that is not well formed. -/
theorem pairs_resolve_twoHomes :
    let env := build ⟨"tester", "/u/tester", "/bin/sh"⟩ (some "HOME=/tmp\nNOEQUALS\nHOME=/var\n")
    ("HOME" ∈ env.pairs.map Prod.fst ∧ "HOME" ≠ "" ∧ '=' ∉ "HOME".toList) ∧
    (env.pairs.lookup "HOME" = env.get? "HOME" ∧ env.get? "HOME" = some "/var") ∧
    (∀ key value, ¬ IsEntry "NOEQUALS" key value) ∧
    Environment.pairs ⟨["HOME=/tmp"] ++ "NOEQUALS" :: ["HOME=/var"]⟩ =
      Environment.pairs ⟨["HOME=/tmp"] ++ ["HOME=/var"]⟩ := by
  intro env
  obtain ⟨-, hkeys, hlookup, -, hmalformed, -⟩ :=
    pairs_resolve ⟨"tester", "/u/tester", "/bin/sh"⟩ (some "HOME=/tmp\nNOEQUALS\nHOME=/var\n")
  have hmem : "HOME" ∈ env.pairs.map Prod.fst := by decide +kernel
  have hentry : ∀ key value, ¬ IsEntry "NOEQUALS" key value := keyValue?_eq_none_iff.mp (by decide +kernel)
  exact ⟨⟨hmem, hkeys "HOME" hmem⟩, ⟨hlookup "HOME", by decide +kernel⟩, hentry, (hmalformed _ _ _ hentry).1⟩

end BatchJob.Environment
