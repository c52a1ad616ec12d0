import BatchJob.CommandLine

/-!
# Where the program begins

A command line is the supervisor's own options, and behind them the program. `Noted` says which arguments are options
and what is noted of them, and `Behind` in which forms a program may stand behind them. The scanner accepts exactly the
command lines that are made up of the two (`scan_eq_ok_iff`).

Main statement: `program_verbatim`. From where the program starts nothing is read any more. Whatever its words are, also
the supervisor's own options, they stay as they are, and the options before it mean what they mean alone.
-/

namespace BatchJob.CommandLine

variable {o o' : Options} {arg word : String} {args own behind program words : List String}

/-- Two hyphens alone end the options, and nothing else does. -/
theorem meaning_eq_endOfOptions_iff : meaning arg = .endOfOptions ↔ arg = "--" := by
  constructor
  · intro h
    unfold meaning at h
    split at h
    next heq => exact String.toList_injective heq
    next =>
      unfold ofLong at h
      simp only at h
      split at h <;> cases h
    next =>
      unfold ofLetters at h
      split at h <;> cases h
    next => cases h
  · rintro rfl
    rfl

/-- An argument without a hyphen at its start is no option. -/
theorem meaning_of_no_hyphen (h : word.toList.head? ≠ some '-') : meaning word = .word := by
  unfold meaning
  split
  next heq => exact absurd (by rw [heq]; rfl) h
  next heq => exact absurd (by rw [heq]; rfl) h
  next heq => exact absurd (by rw [heq]; rfl) h
  next => rfl

/-! ## Options -/

/-- Arguments that are options, and what is noted after them. -/
inductive Noted : Options → List String → Options → Prop
  | nil {o : Options} : Noted o [] o
  /-- An option without a value. -/
  | switch {o o' o'' : Options} {arg : String} {args : List String} {option : Switch}
      (meant : meaning arg = .switch option none) (noted : o.turnOn option = .ok o') (more : Noted o' args o'') :
      Noted o (arg :: args) o''
  /-- An option with its value attached to it. -/
  | attached {o o' o'' : Options} {arg value : String} {args : List String} {option : Setting}
      (meant : meaning arg = .setting option (some value)) (noted : o.assign option value = .ok o')
      (more : Noted o' args o'') : Noted o (arg :: args) o''
  /-- An option with its value in the argument after it. -/
  | separate {o o' o'' : Options} {arg value : String} {args : List String} {option : Setting}
      (meant : meaning arg = .setting option none) (plain : meaning value = .word)
      (noted : o.assign option value = .ok o') (more : Noted o' args o'') : Noted o (arg :: value :: args) o''

/-- What may stand behind the options, and the program that it names. -/
inductive Behind : List String → List String → Prop
  | nothing : Behind [] []
  /-- A program that starts with a word. -/
  | word {word : String} {args : List String} (plain : meaning word = .word) : Behind (word :: args) (word :: args)
  /-- Two hyphens, and then any program. -/
  | separated {arg : String} {args : List String} (ends : meaning arg = .endOfOptions) : Behind (arg :: args) args

/-- No value too many stands at the start of what is accepted. -/
theorem Noted.not_startsWithUnexpectedValue (h : Noted o own o') (hbehind : Behind behind program) :
    startsWithUnexpectedValue (own ++ behind) = false := by
  unfold startsWithUnexpectedValue
  cases h with
  | nil =>
    cases hbehind with
    | nothing => rfl
    | word plain => simp only [List.nil_append, plain]
    | separated ends => simp only [List.nil_append, ends]
  | switch meant => simp only [List.cons_append, meant]
  | attached meant => simp only [List.cons_append, meant]
  | separate meant => simp only [List.cons_append, meant]

/-- What is accepted is options and a program behind them. -/
theorem exists_noted_of_scan (h : scan o args = .ok (o', program)) :
    ∃ own behind, args = own ++ behind ∧ Noted o own o' ∧ Behind behind program := by
  fun_induction scan o args with
  | case1 o =>
    cases h
    exact ⟨[], [], rfl, .nil, .nothing⟩
  | case2 o arg rest ends =>
    cases h
    exact ⟨[], _, rfl, .nil, .separated ends⟩
  | case3 o arg rest plain =>
    cases h
    exact ⟨[], _, rfl, .nil, .word plain⟩
  | case4 => cases h
  | case5 o arg rest option meant o₁ noted ih =>
    obtain ⟨own, behind, rfl, hown, hbehind⟩ := ih h
    exact ⟨arg :: own, behind, rfl, .switch meant noted hown, hbehind⟩
  | case6 => cases h
  | case7 o arg rest option value meant o₁ noted ih =>
    obtain ⟨own, behind, rfl, hown, hbehind⟩ := ih h
    exact ⟨arg :: own, behind, rfl, .attached meant noted hown, hbehind⟩
  | case8 => cases h
  | case9 => cases h
  | case10 => cases h
  | case11 o arg option meant value rest plain _ o₁ noted ih =>
    obtain ⟨own, behind, rfl, hown, hbehind⟩ := ih h
    exact ⟨arg :: value :: own, behind, rfl, .separate meant plain noted hown, hbehind⟩
  | case12 => cases h
  | case13 => cases h
  | case14 => cases h

/-- Options and a program behind them are accepted. -/
theorem Noted.scan_eq (h : Noted o own o') (hbehind : Behind behind program) :
    scan o (own ++ behind) = .ok (o', program) := by
  induction h with
  | nil =>
    cases hbehind with
    | nothing => rfl
    | word plain => simp only [List.nil_append, scan, plain]
    | separated ends => simp only [List.nil_append, scan, ends]
  | switch meant noted _ ih => simpa only [List.cons_append, scan, meant, noted] using ih
  | attached meant noted _ ih => simpa only [List.cons_append, scan, meant, noted] using ih
  | separate meant plain noted more ih =>
    have hplain := more.not_startsWithUnexpectedValue hbehind
    simpa only [List.cons_append, scan, meant, plain, hplain, Bool.false_eq_true, if_false, noted] using ih

/-- **A command line is accepted exactly if it is options and a program behind them.** -/
theorem scan_eq_ok_iff :
    scan o args = .ok (o', program) ↔ ∃ own behind, args = own ++ behind ∧ Noted o own o' ∧ Behind behind program := by
  constructor
  · exact exists_noted_of_scan
  · rintro ⟨own, behind, rfl, hown, hbehind⟩
    exact hown.scan_eq hbehind

/-! ## The program -/

theorem parse_eq_ok_iff {line : CommandLine} :
    parse args = .ok line ↔ ∃ own behind o program, args = own ++ behind ∧ Noted {} own o ∧ Behind behind program ∧
      line = ofOptions o program := by
  unfold parse
  constructor
  · intro h
    rcases hscan : scan {} args with e | ⟨o, program⟩
    · rw [hscan] at h
      cases h
    · rw [hscan] at h
      obtain ⟨own, behind, hargs, hown, hbehind⟩ := scan_eq_ok_iff.mp hscan
      exact ⟨own, behind, o, program, hargs, hown, hbehind, (Except.ok.inj h).symm⟩
  · rintro ⟨own, behind, o, program, hargs, hown, hbehind, rfl⟩
    rw [scan_eq_ok_iff.mpr ⟨own, behind, hargs, hown, hbehind⟩]
    rfl

/-- **The program is what stands behind the options, as it stands.** Behind options that make up a command line of their
own, a word without a hyphen at its start begins the program, and so does whatever comes after two hyphens; all the rest
of the command line are its arguments, and every other field is what it is without them. -/
theorem program_verbatim {options : List String} {line : CommandLine} (alone : parse options = .ok line)
    (none : line.program = []) :
    (∀ word args, word.toList.head? ≠ some '-' →
      parse (options ++ word :: args) = .ok { line with program := word :: args }) ∧
    ("--" ∉ options → ∀ words, parse (options ++ "--" :: words) = .ok { line with program := words }) := by
  obtain ⟨own, behind, o, program, rfl, hown, hbehind, rfl⟩ := parse_eq_ok_iff.mp alone
  obtain rfl : program = [] := none
  constructor
  · intro word args hword
    have hplain := meaning_of_no_hyphen hword
    -- the options may have ended with two hyphens of their own
    have hprogram : Behind (behind ++ word :: args) (word :: args) := by
      cases hbehind with
      | nothing => exact .word hplain
      | separated ends => exact .separated ends
    exact parse_eq_ok_iff.mpr ⟨own, _, o, _, List.append_assoc .., hown, hprogram, rfl⟩
  · intro hhyphens words
    have hnothing : behind = [] := by
      cases hbehind with
      | nothing => rfl
      | separated ends =>
        rw [meaning_eq_endOfOptions_iff.mp ends] at hhyphens
        exact absurd (List.mem_append_right own List.mem_cons_self) hhyphens
    subst hnothing
    have hprogram : Behind ("--" :: words) words := .separated (meaning_eq_endOfOptions_iff.mpr rfl)
    rw [List.append_nil]
    exact parse_eq_ok_iff.mpr ⟨own, _, o, _, rfl, hown, hprogram, rfl⟩

/-- Arguments of the program that are options of the supervisor. -/
theorem program_verbatim_ownOptions :
    let options := ["--log-level", "debug", "--config=job.toml", "--drain-on-exit"]
    let line : CommandLine :=
      { disableConsole := false, verbosity := .debug, configPath := some "job.toml", consolePath := none,
        drainOnExit := true, program := [] }
    parse options = .ok line ∧ "--" ∉ options ∧
      parse (options ++ "ls" :: ["--", "--config", "-h", "--console=x"]) =
        .ok { line with program := ["ls", "--", "--config", "-h", "--console=x"] } ∧
      parse (options ++ "--" :: ["-h", "--", "ls"]) = .ok { line with program := ["-h", "--", "ls"] } := by
  intro options line
  have halone : parse options = .ok line := rfl
  have hhyphens : "--" ∉ options := by decide +kernel
  obtain ⟨hword, hwords⟩ := program_verbatim halone rfl
  exact ⟨halone, hhyphens, hword "ls" _ (by decide +kernel), hwords hhyphens _⟩

end BatchJob.CommandLine
