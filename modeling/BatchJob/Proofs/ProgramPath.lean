import BatchJob.ProgramPath

/-!
# The first directory with a program

`FirstDirectory` says which directory of a search path counts for a name, over all components of the search path, the
empty ones included. The search for a name without a slash is the choice of that directory (`resolve?_eq_some_iff`).
-/

namespace BatchJob.ProgramPath

/-- The first component of a search path that is not empty and has an executable of some name in it. -/
def FirstDirectory (executable : String → Prop) (searchPath name directory : String) : Prop :=
  ∃ earlier later, searchPath.toList.splitOn ':' = earlier ++ directory.toList :: later ∧
    directory ≠ "" ∧ executable (join directory name) ∧
    ∀ other ∈ earlier, other ≠ [] → ¬ executable (join (String.ofList other) name)

variable {executable : String → Bool} {searchPath name path : String}

theorem splitOn_eq (separator : Char) (text : List Char) : splitOn separator text = text.splitOn separator := by
  induction text with
  | nil => rfl
  | cons c rest ih =>
    rw [List.splitOn_cons_eq_if_modifyHead, splitOn, ih]
    by_cases hc : c = separator
    · rw [if_pos hc, if_pos (beq_iff_eq.mpr hc)]
    · rw [if_neg hc, if_neg (by simpa using hc)]
      cases hrest : rest.splitOn separator with
      | nil => exact absurd hrest (List.splitOn_ne_nil separator rest)
      | cons piece pieces => rfl

/-- Searching the directories passes over the components that are empty. -/
theorem find?_directories (searchPath name : String) :
    ((directories searchPath).map (join · name)).find? executable =
      ((searchPath.toList.splitOn ':').find? fun component =>
        decide ((!component.isEmpty) = true ∧ executable (join (String.ofList component) name) = true)).map
          fun component => join (String.ofList component) name := by
  unfold directories
  rw [splitOn_eq, List.find?_map, List.find?_map, List.find?_filter, Option.map_map]
  rfl

theorem firstDirectory_iff {directory : String} :
    FirstDirectory (executable · = true) searchPath name directory ↔
      (searchPath.toList.splitOn ':').find? (fun component =>
        decide ((!component.isEmpty) = true ∧ executable (join (String.ofList component) name) = true)) =
          some directory.toList := by
  rw [List.find?_eq_some_iff_append]
  unfold FirstDirectory
  simp only [Bool.not_eq_true', List.isEmpty_eq_false_iff, decide_eq_true_eq, decide_eq_false_iff_not, not_and,
    String.ofList_toList, ne_eq, String.toList_eq_nil_iff]
  constructor
  · rintro ⟨earlier, later, hsplit, hnonempty, hexecutable, hearlier⟩
    exact ⟨⟨hnonempty, hexecutable⟩, earlier, later, hsplit, hearlier⟩
  · rintro ⟨⟨hnonempty, hexecutable⟩, earlier, later, hsplit, hearlier⟩
    exact ⟨earlier, later, hsplit, hnonempty, hexecutable, hearlier⟩

/-- **A name without a slash is found in the first directory that has an executable of that name.** -/
theorem resolve?_eq_some_iff (nonempty : name ≠ "") (noSlash : '/' ∉ name.toList) :
    resolve? executable name (some searchPath) = some path ↔
      ∃ directory, FirstDirectory (executable · = true) searchPath name directory ∧ path = join directory name := by
  have hnonempty : name.isEmpty = false := by simpa using nonempty
  unfold resolve?
  rw [hnonempty, if_neg Bool.false_ne_true, if_neg noSlash]
  simp only [find?_directories, Option.map_eq_some_iff, firstDirectory_iff]
  constructor
  · rintro ⟨component, hfind, rfl⟩
    exact ⟨String.ofList component, by rw [hfind, String.toList_ofList], rfl⟩
  · rintro ⟨directory, hfind, rfl⟩
    exact ⟨directory.toList, hfind, by rw [String.ofList_toList]⟩

/-- A name with a slash is a path already. -/
theorem resolve?_of_slash (slash : '/' ∈ name.toList) (searchPath : Option String) :
    resolve? executable name searchPath = some name := by
  have hnonempty : name.isEmpty = false := by
    rw [String.isEmpty_eq_false_iff]
    rintro rfl
    cases slash
  unfold resolve?
  rw [hnonempty, if_neg Bool.false_ne_true, if_pos slash]

/-- No name is no program. -/
theorem resolve?_empty (searchPath : Option String) : resolve? executable "" searchPath = none := rfl

/-- A directory and no name make a path that ends in a slash. -/
theorem join_empty (directory : String) : (join directory "").endsWith "/" = true := by
  have hlast : (join directory "").toList.getLast? = some '/' := by
    unfold join
    split
    · next h =>
      rw [String.append_empty]
      exact h
    · simp
  unfold String.endsWith
  rw [String.Slice.endsWith_string_iff, String.copy_toSlice]
  exact List.singleton_suffix_iff_getLast?_eq_some.mpr hlast

end BatchJob.ProgramPath
