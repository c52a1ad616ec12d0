import BatchJob.Proofs.Environment.Entries
import BatchJob.Proofs.Text.LetterCase
import BatchJob.Proofs.Text.Lines

/-!
# The layers of an environment

An environment is built in layers, and what STDENV says lies above what every child starts with (`fallback?`).
`Sets` says when a line of STDENV sets a key, and `LastSets` which of several such lines counts, both without the way
the lines are turned into entries. The effective value of every key is then told in one line
(`get?_build_eq_some_iff`), and the default sharing policy is there exactly if no line sets it. The main statement is
`environment_layered`.
-/

namespace BatchJob.Environment

open Text

/-! ## What STDENV sets -/

/-- A line of STDENV without the spaces and tabs it starts with. -/
def unindented (line : List Char) : List Char :=
  line.dropWhile fun c => c == ' ' || c == '\t'

/-- A line of STDENV that sets a key: it is neither blank nor a comment, and after its indent it starts with the key and
an equals sign; the value is the rest. -/
structure Sets (line : List Char) (key value : String) : Prop where
  notBlank : ¬ ∀ c ∈ unindented line, isBlank c = true
  notComment : (unindented line).head? ≠ some '#'
  text : unindented line = key.toList ++ '=' :: value.toList

/-- Some line sets a key. -/
def SetBy (lines : List (List Char)) (key : String) : Prop :=
  ∃ line ∈ lines, ∃ value, Sets line key value

/-- The last line that sets a key gives it a value. -/
def LastSets (lines : List (List Char)) (key value : String) : Prop :=
  ∃ earlier line later, lines = earlier ++ line :: later ∧ Sets line key value ∧ ¬ SetBy later key

/-- What a key is worth if STDENV does not set it. -/
def fallback? (account : Account) (key : String) : Option String :=
  match key with
  | "HOME" | "PWD" => some account.home
  | "_BPX_SHAREAS" => some "MUST"
  | "LIBPATH" => some "/lib:/usr/lib"
  | "PATH" => some "/bin:/usr/bin"
  | "_BPXK_AUTOCVT" => some "ON"
  | "_BPXK_JOBLOG" => some "STDERR"
  | "_BPX_SPAWN_SCRIPT" => some "YES"
  | "_EDC_ADD_ERRNO2" => some "1"
  | _ => none

variable {line : List Char} {lines : List (List Char)} {entry key value : String}

/-- Of the lines that set a key, one is the last. -/
theorem exists_lastSets (h : SetBy lines key) : ∃ value, LastSets lines key value := by
  induction lines with
  | nil =>
    obtain ⟨_, hmem, -⟩ := h
    cases hmem
  | cons first rest ih =>
    by_cases hrest : SetBy rest key
    · obtain ⟨value, earlier, line, later, rfl, hsets, hlater⟩ := ih hrest
      exact ⟨value, first :: earlier, line, later, rfl, hsets, hlater⟩
    · obtain ⟨line, hmem, value, hsets⟩ := h
      rcases List.mem_cons.mp hmem with rfl | hmem
      · exact ⟨value, [], line, rest, rfl, hsets, hrest⟩
      · exact absurd ⟨line, hmem, value, hsets⟩ hrest

theorem LastSets.setBy (h : LastSets lines key value) : SetBy lines key := by
  obtain ⟨earlier, line, later, rfl, hsets, -⟩ := h
  exact ⟨line, by simp, value, hsets⟩

/-! ## The entries of the lines -/

/-- The entries that some lines of STDENV make. -/
def entriesOfLines (lines : List (List Char)) : List String :=
  (lines.filterMap entryOfLine?).map String.ofList

/-- In a line there is no newline that could be dropped with its indent. -/
theorem dropWhile_isIndent (unbroken : '\n' ∉ line) : line.dropWhile isIndent = unindented line := by
  induction line with
  | nil => rfl
  | cons c rest ih =>
    have hc : c ≠ '\n' := fun h => unbroken (h ▸ List.mem_cons_self)
    have hrest : '\n' ∉ rest := fun h => unbroken (List.mem_cons_of_mem c h)
    have hindent : isIndent c = (c == ' ' || c == '\t') := by
      simp [isIndent, hc]
    unfold unindented at ih ⊢
    rw [List.dropWhile_cons, List.dropWhile_cons, hindent, ih hrest]

theorem entryOfLine?_eq_some_iff {entry : List Char} :
    entryOfLine? line = some entry ↔
      line.dropWhile isIndent = entry ∧ entry ≠ [] ∧ entry.head? ≠ some '#' := by
  unfold entryOfLine?
  constructor
  · intro h
    split at h
    · cases h
    · cases h
    · next hnil hcomment =>
      cases h
      refine ⟨rfl, hnil, ?_⟩
      intro hhead
      cases hline : line.dropWhile isIndent with
      | nil => exact hnil hline
      | cons c rest =>
        rw [hline] at hhead
        cases hhead
        exact hcomment rest hline
  · rintro ⟨rfl, hnil, hcomment⟩
    split
    · next h => exact absurd h hnil
    · next h => exact absurd (by rw [h]; rfl) hcomment
    · rfl

/-- A line sets a key exactly if its entry does. -/
theorem sets_iff (unbroken : '\n' ∉ line) (nonempty : key ≠ "") (noEquals : '=' ∉ key.toList) :
    Sets line key value ↔ ∃ entry, entryOfLine? line = some entry ∧ IsEntry (String.ofList entry) key value := by
  constructor
  · intro h
    refine ⟨unindented line, ?_, nonempty, noEquals, ?_⟩
    · rw [entryOfLine?_eq_some_iff]
      refine ⟨dropWhile_isIndent unbroken, ?_, h.notComment⟩
      rw [h.text]
      simp
    · rw [h.text, ← String.toList_inj]
      simp
  · rintro ⟨entry, hentry, hkey⟩
    obtain ⟨hline, -, hcomment⟩ := entryOfLine?_eq_some_iff.mp hentry
    rw [dropWhile_isIndent unbroken] at hline
    have htext : unindented line = key.toList ++ '=' :: value.toList := by
      rw [hline, ← @String.toList_ofList entry, hkey.text]
      simp
    refine ⟨?_, ?_, htext⟩
    · -- The equals sign is not blank.
      intro hblank
      have hequals := hblank '=' (by rw [htext]; simp)
      cases hequals
    · rw [hline]
      exact hcomment

theorem setBy_iff (unbroken : ∀ line ∈ lines, '\n' ∉ line) (nonempty : key ≠ "") (noEquals : '=' ∉ key.toList) :
    SetBy lines key ↔ ∃ entry ∈ entriesOfLines lines, ∃ value, IsEntry entry key value := by
  unfold entriesOfLines
  constructor
  · rintro ⟨line, hmem, value, hsets⟩
    obtain ⟨entry, hentry, hkey⟩ := (sets_iff (unbroken line hmem) nonempty noEquals).mp hsets
    exact ⟨_, List.mem_map_of_mem (List.mem_filterMap.mpr ⟨line, hmem, hentry⟩), value, hkey⟩
  · rintro ⟨_, hmem, value, hkey⟩
    obtain ⟨entry, hchars, rfl⟩ := List.mem_map.mp hmem
    obtain ⟨line, hline, hentry⟩ := List.mem_filterMap.mp hchars
    exact ⟨line, hline, value, (sets_iff (unbroken line hline) nonempty noEquals).mpr ⟨entry, hentry, hkey⟩⟩

/-- The keys that no line sets are those without a value in the entries of the lines. -/
theorem get?_entriesOfLines_eq_none_iff (unbroken : ∀ line ∈ lines, '\n' ∉ line) (nonempty : key ≠ "")
    (noEquals : '=' ∉ key.toList) : get? ⟨entriesOfLines lines⟩ key = none ↔ ¬ SetBy lines key := by
  rw [get?_eq_none_iff, setBy_iff unbroken nonempty noEquals]
  constructor
  · rintro h ⟨entry, hmem, value, hentry⟩
    exact h entry hmem value hentry
  · intro h entry hmem value hentry
    exact h ⟨entry, hmem, value, hentry⟩

/-- **The last line that sets a key gives its value in the entries of the lines.** -/
theorem get?_entriesOfLines_last (unbroken : ∀ line ∈ lines, '\n' ∉ line) (nonempty : key ≠ "")
    (noEquals : '=' ∉ key.toList) (h : LastSets lines key value) :
    get? ⟨entriesOfLines lines⟩ key = some value := by
  obtain ⟨earlier, line, later, rfl, hsets, hlater⟩ := h
  have hunbroken : ∀ line ∈ later, '\n' ∉ line := fun line hmem =>
    unbroken line (List.mem_append_right _ (List.mem_cons_of_mem _ hmem))
  obtain ⟨entry, hentry, hkey⟩ := (sets_iff (unbroken line (by simp)) nonempty noEquals).mp hsets
  have hsplit : entriesOfLines (earlier ++ line :: later) =
      (entriesOfLines earlier ++ [String.ofList entry]) ++ entriesOfLines later := by
    unfold entriesOfLines
    simp [hentry]
  rw [hsplit, get?_append, (get?_entriesOfLines_eq_none_iff hunbroken nonempty noEquals).mpr hlater, get?_append, get?_single,
    valueFor?_eq_some_iff.mpr hkey]
  rfl

/-! ## The sharing policy -/

theorem isEntry_sharingDefault : IsEntry sharingDefault sharingKey "MUST" :=
  ⟨by decide, by decide, by decide⟩

/-- Setting the sharing policy is having its key. -/
theorem setsSharing_iff : setsSharing entry = true ↔ ∃ value, IsEntry entry sharingKey value := by
  unfold setsSharing
  rw [List.isPrefixOf_iff_prefix]
  constructor
  · rintro ⟨rest, hrest⟩
    refine ⟨String.ofList rest, by decide, by decide, ?_⟩
    rw [← String.toList_inj, ← hrest]
    simp
  · rintro ⟨value, hentry⟩
    refine ⟨value.toList, ?_⟩
    rw [hentry.text]
    simp

theorem any_setsSharing_iff (unbroken : ∀ line ∈ lines, '\n' ∉ line) :
    (entriesOfLines lines).any setsSharing = true ↔ SetBy lines sharingKey := by
  rw [setBy_iff unbroken (by decide) (by decide), List.any_eq_true]
  simp only [setsSharing_iff]

theorem sharesAddressSpace_eq_false_iff (env : Environment) :
    env.sharesAddressSpace = false ↔
      ∃ value, env.get? sharingKey = some value ∧ SameLetters value.toList "NO".toList := by
  unfold sharesAddressSpace
  cases henv : env.get? sharingKey with
  | none => simp
  | some value =>
    have hno : "NO".toList.map upperAscii = "NO".toList := by decide
    simp only [bne_eq_false_iff_eq, Option.some.injEq, exists_eq_left']
    exact map_upperAscii_eq hno

/-! ## What every child starts with -/

/-- A key and its value as an entry. -/
def written (pair : String × String) : String :=
  pair.1 ++ "=" ++ pair.2

/-- In entries that were written the last pair of a key counts. -/
theorem get?_written {pairs : List (String × String)} (h : ∀ pair ∈ pairs, pair.1 ≠ "" ∧ '=' ∉ pair.1.toList)
    (key : String) : get? ⟨pairs.map written⟩ key = pairs.reverse.lookup key := by
  induction pairs with
  | nil => rfl
  | cons pair rest ih =>
    obtain ⟨k, v⟩ := pair
    obtain ⟨hnonempty, hclean⟩ := h (k, v) List.mem_cons_self
    have hrest := ih fun pair hmem => h pair (List.mem_cons_of_mem _ hmem)
    have hentry : IsEntry (written (k, v)) k v := ⟨hnonempty, hclean, rfl⟩
    rw [List.map_cons, ← List.singleton_append, get?_append, hrest, get?_single, List.reverse_cons,
      List.lookup_append]
    congr 1
    by_cases hk : key = k
    · rw [hk, valueFor?_eq_some_iff.mpr hentry, List.lookup_cons_self]
    · rw [List.lookup_cons, beq_eq_false_iff_ne.mpr hk, valueFor?_eq_none_iff.mpr]
      · rfl
      · intro value hvalue
        exact hk (hentry.unique hvalue).1

/-- The keys that every child starts with, and their values. -/
def initial (account : Account) : List (String × String) :=
  [("LIBPATH", "/lib:/usr/lib"), ("PATH", "/bin:/usr/bin"), ("_BPXK_AUTOCVT", "ON"), ("_BPXK_JOBLOG", "STDERR"),
    ("_BPX_SPAWN_SCRIPT", "YES"), ("_EDC_ADD_ERRNO2", "1"), ("HOME", account.home), ("PWD", account.home)]

/-- The entries that lie below the default sharing policy. -/
def layers (account : Account) (lines : List (List Char)) : List String :=
  (initial account).map written ++ entriesOfLines lines

variable (account : Account)

theorem initial_eq : (initial account).map written = defaults ++ ["HOME=" ++ account.home, "PWD=" ++ account.home] := by
  have hwritten (key equals : String) (h : key ++ "=" = equals) : key ++ "=" ++ account.home = equals ++ account.home := by
    rw [h]
  simp only [initial, written, defaults, List.map_cons, List.map_nil]
  rw [hwritten "HOME" "HOME=" (by decide), hwritten "PWD" "PWD=" (by decide)]
  rfl

theorem keys_initial : ∀ pair ∈ initial account, pair.1 ≠ "" ∧ '=' ∉ pair.1.toList := by
  simp [initial]

/-- What STDENV does not set comes from what every child starts with. -/
theorem get?_initial (key : String) :
    get? ⟨(initial account).map written ++ [sharingDefault]⟩ key = fallback? account key := by
  have hwritten : (initial account).map written ++ [sharingDefault] =
      (initial account ++ [(sharingKey, "MUST")]).map written := by
    rw [List.map_append]
    congr 1
  have hkeys : ∀ pair ∈ initial account ++ [(sharingKey, "MUST")], pair.1 ≠ "" ∧ '=' ∉ pair.1.toList := by
    intro pair hmem
    rcases List.mem_append.mp hmem with hmem | hmem
    · exact keys_initial account pair hmem
    · rw [List.mem_singleton.mp hmem]
      decide
  rw [hwritten, get?_written hkeys]
  unfold fallback? initial sharingKey
  split
  on_goal 10 =>
    -- None of the keys.
    rw [List.lookup_eq_none_iff]
    simp_all
  all_goals rfl

/-! ## The environment -/

/-- The lines of STDENV; without STDENV there are none. -/
def stdenvLines (stdenv : Option String) : List (List Char) :=
  Text.lines (stdenv.getD "").toList

variable (stdenv : Option String)

theorem isLines_stdenvLines : IsLines (stdenv.getD "").toList (stdenvLines stdenv) :=
  isLines_lines _

theorem stdenvLines_unbroken : ∀ line ∈ stdenvLines stdenv, '\n' ∉ line :=
  (isLines_stdenvLines stdenv).unbroken

/-- The default sharing policy is the last entry, unless some line sets the policy. -/
theorem entries_build :
    (¬ SetBy (stdenvLines stdenv) sharingKey →
      (build account stdenv).entries = layers account (stdenvLines stdenv) ++ [sharingDefault]) ∧
    (SetBy (stdenvLines stdenv) sharingKey →
      (build account stdenv).entries = layers account (stdenvLines stdenv)) := by
  have hentries : (build account stdenv).entries =
      layers account (stdenvLines stdenv) ++
        if (entriesOfLines (stdenvLines stdenv)).any setsSharing then [] else [sharingDefault] := by
    unfold layers
    rw [initial_eq]
    rfl
  rw [hentries, ← any_setsSharing_iff (stdenvLines_unbroken stdenv)]
  constructor
  · intro h
    rw [if_neg h]
  · intro h
    rw [if_pos h, List.append_nil]

/-- If no line sets the sharing policy, its default is not among the entries below. -/
theorem sharingDefault_not_mem_layers (h : ¬ SetBy (stdenvLines stdenv) sharingKey) :
    sharingDefault ∉ layers account (stdenvLines stdenv) := by
  unfold layers
  intro hmem
  rcases List.mem_append.mp hmem with hmem | hmem
  · have hnone : get? ⟨(initial account).map written⟩ sharingKey = none := by
      rw [get?_written (keys_initial account)]
      rfl
    exact get?_eq_none_iff.mp hnone _ hmem _ isEntry_sharingDefault
  · refine h ((setBy_iff (stdenvLines_unbroken stdenv) (by decide) (by decide)).mpr ?_)
    exact ⟨_, hmem, _, isEntry_sharingDefault⟩

/-- The lines of STDENV count before what every child starts with. The default sharing policy comes after the lines, but
only if none of them sets the policy. -/
theorem get?_build (key : String) :
    (build account stdenv).get? key =
      (get? ⟨entriesOfLines (stdenvLines stdenv)⟩ key).or (fallback? account key) := by
  obtain ⟨hunset, hset⟩ := entries_build account stdenv
  have hunbroken := stdenvLines_unbroken stdenv
  have hother (h : key ≠ sharingKey) : get? ⟨[sharingDefault]⟩ key = none := by
    rw [get?_single, valueFor?_eq_none_iff]
    intro value hvalue
    exact h (isEntry_sharingDefault.unique hvalue).1
  rw [← get?_initial, get?_append]
  by_cases hsharing : SetBy (stdenvLines stdenv) sharingKey
  · have hbuild : build account stdenv = ⟨layers account (stdenvLines stdenv)⟩ :=
      congrArg Environment.mk (hset hsharing)
    rw [hbuild, layers, get?_append]
    by_cases hkey : key = sharingKey
    · obtain ⟨value, hlast⟩ := exists_lastSets hsharing
      rw [hkey, get?_entriesOfLines_last hunbroken (by decide) (by decide) hlast, Option.some_or, Option.some_or]
    · rw [hother hkey, Option.none_or]
  · have hbuild : build account stdenv = ⟨layers account (stdenvLines stdenv) ++ [sharingDefault]⟩ :=
      congrArg Environment.mk (hunset hsharing)
    rw [hbuild, layers, get?_append, get?_append]
    by_cases hkey : key = sharingKey
    · have hnone := (get?_entriesOfLines_eq_none_iff hunbroken (by decide) (by decide)).mpr hsharing
      rw [hkey, hnone, Option.none_or, Option.none_or]
    · rw [hother hkey, Option.none_or, Option.none_or]

/-- **The effective value of a key is the one that STDENV gives it last, and else its fallback.** -/
theorem get?_build_eq_some_iff (nonempty : key ≠ "") (noEquals : '=' ∉ key.toList) :
    (build account stdenv).get? key = some value ↔
      LastSets (stdenvLines stdenv) key value ∨
        (¬ SetBy (stdenvLines stdenv) key ∧ fallback? account key = some value) := by
  have hunbroken := stdenvLines_unbroken stdenv
  have hlast (value : String) (h : LastSets (stdenvLines stdenv) key value) :
      get? ⟨entriesOfLines (stdenvLines stdenv)⟩ key = some value :=
    get?_entriesOfLines_last hunbroken nonempty noEquals h
  rw [get?_build]
  by_cases h : SetBy (stdenvLines stdenv) key
  · obtain ⟨last, hsets⟩ := exists_lastSets h
    rw [hlast last hsets, Option.some_or]
    constructor
    · rintro ⟨⟩
      exact .inl hsets
    · rintro (hvalue | ⟨hnot, -⟩)
      · rw [← hlast last hsets]
        exact hlast value hvalue
      · exact absurd h hnot
  · rw [(get?_entriesOfLines_eq_none_iff hunbroken nonempty noEquals).mpr h, Option.none_or]
    constructor
    · intro hvalue
      exact .inr ⟨h, hvalue⟩
    · rintro (hvalue | ⟨-, hvalue⟩)
      · exact absurd hvalue.setBy h
      · exact hvalue

/-- **What STDENV says lies above what every child starts with.** A key has the value that the last line of STDENV for
it gives, and its fallback if there is no such line; the default sharing policy is the last entry and the only one like
it if no line sets the policy, and is not added if one does; and the child shares the address space unless the policy
says no, in letters of either case. -/
theorem environment_layered :
    let lines := stdenvLines stdenv
    IsLines (stdenv.getD "").toList lines ∧
    (∀ key, key ≠ "" → '=' ∉ key.toList → ∀ value,
      (build account stdenv).get? key = some value ↔
        LastSets lines key value ∨ (¬ SetBy lines key ∧ fallback? account key = some value)) ∧
    (¬ SetBy lines sharingKey →
      (build account stdenv).entries = layers account lines ++ [sharingDefault] ∧
        sharingDefault ∉ layers account lines) ∧
    (SetBy lines sharingKey → (build account stdenv).entries = layers account lines) ∧
    ((build account stdenv).sharesAddressSpace = false ↔
      ∃ value, (build account stdenv).get? sharingKey = some value ∧ SameLetters value.toList "NO".toList) := by
  intro lines
  obtain ⟨hdefault, hset⟩ := entries_build account stdenv
  refine ⟨isLines_stdenvLines stdenv, ?_, ?_, hset, sharesAddressSpace_eq_false_iff _⟩
  · intro key nonempty noEquals value
    exact get?_build_eq_some_iff account stdenv nonempty noEquals
  · intro h
    exact ⟨hdefault h, sharingDefault_not_mem_layers account stdenv h⟩

/-- A comment, an indented line, a line that is set again, and a sharing policy in small letters; and nothing of it. -/
theorem environment_layered_overrides :
    let account : Account := ⟨"tester", "/u/tester", "/bin/sh"⟩
    let stdenv := some "#PATH=/none\r\n \tPATH=/opt/bin\nPATH=/last\r\n_BPX_SHAREAS=no"
    (build account stdenv).get? "PATH" = some "/last" ∧
    (build account stdenv).get? "PWD" = some "/u/tester" ∧
    (build account stdenv).entries = layers account (stdenvLines stdenv) ∧
    (build account stdenv).sharesAddressSpace = false ∧
    (build account none).entries = layers account [] ++ [sharingDefault] := by
  intro account stdenv
  obtain ⟨-, hvalue, -, hset, hshares⟩ := environment_layered account stdenv
  obtain ⟨-, -, hdefault, -⟩ := environment_layered account none
  have hunset {lines : List (List Char)} {key : String} (unbroken : ∀ line ∈ lines, '\n' ∉ line) (nonempty : key ≠ "")
      (noEquals : '=' ∉ key.toList) (h : get? ⟨entriesOfLines lines⟩ key = none) : ¬ SetBy lines key :=
    (get?_entriesOfLines_eq_none_iff unbroken nonempty noEquals).mp h
  have hlines : stdenvLines stdenv =
      ["#PATH=/none".toList, " \tPATH=/opt/bin".toList] ++ "PATH=/last".toList :: ["_BPX_SHAREAS=no".toList] := by
    decide +kernel
  have hpath : LastSets (stdenvLines stdenv) "PATH" "/last" := by
    refine ⟨_, _, _, hlines, ⟨by simp [unindented, isBlank], by decide +kernel, by decide +kernel⟩, ?_⟩
    exact hunset (by decide +kernel) (by decide) (by decide) (by decide +kernel)
  have hpwd : ¬ SetBy (stdenvLines stdenv) "PWD" :=
    hunset (stdenvLines_unbroken stdenv) (by decide) (by decide) (by decide +kernel)
  have hsharing : SetBy (stdenvLines stdenv) sharingKey := by
    refine ⟨"_BPX_SHAREAS=no".toList, by rw [hlines]; simp, "no", ?_⟩
    exact ⟨by simp [unindented, isBlank], by decide +kernel, by decide +kernel⟩
  have hnone : ¬ SetBy (stdenvLines none) sharingKey := by
    rintro ⟨_, hmem, -⟩
    cases hmem
  exact ⟨(hvalue "PATH" (by decide) (by decide) "/last").mpr (.inl hpath),
    (hvalue "PWD" (by decide) (by decide) "/u/tester").mpr (.inr ⟨hpwd, rfl⟩), hset hsharing,
    hshares.mpr ⟨"no", by decide +kernel, by decide⟩, (hdefault hnone).1⟩

end BatchJob.Environment
