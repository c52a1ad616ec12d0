import Mathlib.Data.List.TakeWhile
import BatchJob.CommandLine
import BatchJob.Job.Preparation

/-!
# A console setting that the command line overrides

A path given on the command line counts before the one in the settings, and without commands there is no console at
all. So either of them makes the path in the settings irrelevant (`console_setting_overridden`): the options and the
console to listen on, or the failure to open it, are the same whatever it is.

There is one gap. Without a path on the command line the one in the settings is expanded, also when commands are
disabled and nobody is going to use it. If it names a variable that is not set, the job does not run at all
(`disabled_setting_is_expanded`).
-/

namespace BatchJob

/-- A path that is a variable which is not set cannot be expanded. -/
theorem Expansion.expand_unset {vars : Variables} {name : List Char} (hsome : name ≠ [])
    (hname : ∀ c ∈ name, isNameChar c = true) (hunset : vars.get? (String.ofList name) = none) :
    expand vars (String.ofList ('$' :: name)) = .error (String.ofList name) := by
  cases name with
  | nil => exact absurd rfl hsome
  | cons c rest =>
    have hbrace : c ≠ '{' := by
      rintro rfl
      exact absurd (hname _ List.mem_cons_self) (by decide)
    have hdollar : c ≠ '$' := by
      rintro rfl
      exact absurd (hname _ List.mem_cons_self) (by decide)
    have htake : (c :: rest).takeWhile isNameChar = c :: rest := List.takeWhile_eq_self_iff.mpr hname
    have hvariables : replaceVariables vars.get? ('$' :: c :: rest) = .error (String.ofList (c :: rest)) := by
      rw [replaceVariables]
      · simp only [htake, List.isEmpty_cons, valueOf, hunset]
        rfl
      · simpa using hbrace
      · simpa using hdollar
    rw [expand, String.toList_ofList, hvariables]
    rfl

/-- Settings whose console is such a path name none. -/
theorem Config.console_unset {config : Config} {vars : Variables} (name : List Char)
    (hpath : config.consolePath = some (String.ofList ('$' :: name))) (hsome : name ≠ [])
    (hname : ∀ c ∈ name, Expansion.isNameChar c = true) (hunset : vars.get? (String.ofList name) = none) :
    config.console vars = .error (.expand (String.ofList ('$' :: name)) (String.ofList name)) := by
  rw [console, hpath]
  simp only [expand, Expansion.expand_unset hsome hname hunset]
  rfl

namespace CommandLine

variable (line : CommandLine) (config : Config) (vars : Variables)

/-- The path of the console, from the command line or else from the settings. -/
def consolePathOver : Except ConfigError (Option String) :=
  match line.consolePath with
  | some path => .ok (some path)
  | none => config.console vars

/-- The options of a run whose console is at a given path. -/
def optionsWith (consolePath : Option String) : RunOptions where
  program := line.program
  disableConsole := line.disableConsole
  consolePath := consolePath
  stopPolicy := if line.drainOnExit then .drainToEof else config.stopPolicy
  bufferSize := config.bufferSize

theorem runOptions_eq :
    line.runOptions config vars = (line.consolePathOver config vars).map (line.optionsWith config) := by
  unfold runOptions consolePathOver
  cases line.consolePath with
  | some path => rfl
  | none =>
    cases config.console vars with
    | error e => rfl
    | ok path => rfl

/-- What a command line over some settings comes to: the options of the run and the console to listen on. -/
def consoleChoice (fs : FileSystem) : Except JobError (RunOptions × Option Console.Source × FileSystem) :=
  match line.runOptions config vars with
  | .error e => .error (.options e)
  | .ok options => (options.openConsole fs).map fun opened => (options, opened)

variable {line config vars} {path : String} {found : Option String} {other : Option String}

/-- A path on the command line is taken without regard to the settings. -/
theorem runOptions_of_path (given : line.consolePath = some path) :
    line.runOptions config vars = .ok (line.optionsWith config (some path)) := by
  rw [runOptions_eq]
  unfold consolePathOver
  rw [given]
  rfl

/-- Without one, the options depend on the path in the settings being expanded. -/
theorem runOptions_of_setting (absent : line.consolePath = none) :
    line.runOptions config vars = (config.console vars).map (line.optionsWith config) := by
  rw [runOptions_eq]
  unfold consolePathOver
  rw [absent]

/-- With commands disabled no console is opened. -/
theorem openConsole_of_disabled {options : RunOptions} (disabled : options.disableConsole = true) (fs : FileSystem) :
    options.openConsole fs = .ok (none, fs) := by
  unfold RunOptions.openConsole
  rw [disabled]

/-- Options that are there, with commands disabled, are all that a command line comes to. -/
theorem consoleChoice_of_disabled {options : RunOptions} (disabled : options.disableConsole = true)
    (h : line.runOptions config vars = .ok options) (fs : FileSystem) :
    line.consoleChoice config vars fs = .ok (options, none, fs) := by
  unfold consoleChoice
  rw [h]
  simp only [openConsole_of_disabled disabled]
  rfl

/-- **A path in the settings that the command line overrides does not matter, as far as it is not expanded.** With a path
on the command line, settings that differ in their path lead to the same options and to the same console, or to the same
failure to open it. With commands disabled they lead to no console and to options that differ in the unused path at most,
provided that there is a path on the command line or both of theirs can be expanded; a path that cannot be expanded is
the failure of the job. -/
theorem console_setting_overridden (line : CommandLine) (config : Config) (other : Option String) (vars : Variables)
    (fs : FileSystem) :
    let changed := { config with consolePath := other }
    (line.consolePath ≠ none →
      ∃ options, line.runOptions config vars = .ok options ∧ line.runOptions changed vars = .ok options ∧
        line.consoleChoice changed vars fs = line.consoleChoice config vars fs) ∧
    (line.disableConsole = true →
      (line.consolePath ≠ none ∨
        (∃ found, config.console vars = .ok found) ∧ ∃ found, changed.console vars = .ok found) →
      ∃ options found, line.consoleChoice config vars fs = .ok (options, none, fs) ∧
        line.consoleChoice changed vars fs = .ok ({ options with consolePath := found }, none, fs)) ∧
    ∀ e, line.consolePath = none → config.console vars = .error e →
      line.consoleChoice config vars fs = .error (.options e) := by
  intro changed
  refine ⟨fun given => ?_, fun disabled expands => ?_, fun e absent failed => ?_⟩
  · obtain ⟨path, hpath⟩ := Option.ne_none_iff_exists'.mp given
    have hoptions : line.runOptions config vars = .ok (line.optionsWith config (some path)) := runOptions_of_path hpath
    have hchanged : line.runOptions changed vars = .ok (line.optionsWith config (some path)) :=
      runOptions_of_path hpath
    refine ⟨_, hoptions, hchanged, ?_⟩
    unfold consoleChoice
    rw [hoptions, hchanged]
  · -- both runs have options, and these are the same but for the path
    have hboth : ∃ before after, line.runOptions config vars = .ok (line.optionsWith config before) ∧
        line.runOptions changed vars = .ok (line.optionsWith config after) := by
      cases hpath : line.consolePath with
      | some path => exact ⟨_, _, runOptions_of_path hpath, runOptions_of_path hpath⟩
      | none =>
        obtain ⟨⟨before, hbefore⟩, after, hafter⟩ := expands.resolve_left (absurd hpath)
        refine ⟨before, after, ?_, ?_⟩
        · rw [runOptions_of_setting hpath, hbefore]
          rfl
        · rw [runOptions_of_setting hpath, hafter]
          rfl
    obtain ⟨before, after, hoptions, hchanged⟩ := hboth
    exact ⟨line.optionsWith config before, after, consoleChoice_of_disabled disabled hoptions fs,
      consoleChoice_of_disabled disabled hchanged fs⟩
  · unfold consoleChoice
    rw [runOptions_of_setting absent, failed]
    rfl

/-- A path on the command line over one that cannot be expanded, and disabled commands over one that can. -/
theorem console_setting_overridden_twoLines :
    let line : CommandLine :=
      { disableConsole := false, verbosity := .info, configPath := none, consolePath := some "commands",
        drainOnExit := false, program := ["true"] }
    let quiet := { line with disableConsole := true, consolePath := none }
    let unset : Config := { consolePath := some "$UNSET" }
    let plain : Config := { consolePath := some "c" }
    (∃ options, line.runOptions unset ⟨[]⟩ = .ok options ∧
      line.runOptions { unset with consolePath := none } ⟨[]⟩ = .ok options) ∧
    (∃ options found, quiet.consoleChoice plain ⟨[]⟩ .empty = .ok (options, none, .empty) ∧
      quiet.consoleChoice { plain with consolePath := none } ⟨[]⟩ .empty =
        .ok ({ options with consolePath := found }, none, .empty)) ∧
    quiet.consoleChoice unset ⟨[]⟩ .empty = .error (.options (.expand "$UNSET" "UNSET")) := by
  intro line quiet unset plain
  have hfound : plain.console ⟨[]⟩ = .ok (some "c") := by
    have hvariables : Expansion.replaceVariables (Variables.get? ⟨[]⟩) ['c'] = .ok ['c'] := by
      rw [Expansion.replaceVariables, Expansion.replaceVariables]
      · rfl
      all_goals simp
    have hexpand : Expansion.expand ⟨[]⟩ "c" = .ok "c" := by
      rw [Expansion.expand, show "c".toList = ['c'] from rfl, hvariables]
      rfl
    simp only [plain, Config.console, Config.expand, hexpand]
    rfl
  have hunset : unset.console ⟨[]⟩ = .error (.expand "$UNSET" "UNSET") :=
    Config.console_unset ['U', 'N', 'S', 'E', 'T'] rfl (List.cons_ne_nil _ _)
      (List.all_eq_true.mp (by decide)) rfl
  obtain ⟨hgiven, -, -⟩ := console_setting_overridden line unset none ⟨[]⟩ .empty
  obtain ⟨-, hdisabled, -⟩ := console_setting_overridden quiet plain none ⟨[]⟩ .empty
  obtain ⟨-, -, hfailed⟩ := console_setting_overridden quiet unset none ⟨[]⟩ .empty
  obtain ⟨options, hoptions, hchanged, -⟩ := hgiven (Option.some_ne_none _)
  exact ⟨⟨options, hoptions, hchanged⟩, hdisabled rfl (.inr ⟨⟨_, hfound⟩, _, rfl⟩), hfailed _ rfl hunset⟩

/-- **Disabled commands do not make the path in the settings irrelevant**: if it names a variable that is not set, there
are no options, and where there is no such path they are there. -/
theorem disabled_setting_is_expanded :
    let line : CommandLine :=
      { disableConsole := true, verbosity := .info, configPath := none, consolePath := none, drainOnExit := false,
        program := ["true"] }
    let config : Config := { consolePath := some "$UNSET" }
    line.disableConsole = true ∧
      line.consoleChoice config ⟨[]⟩ .empty = .error (.options (.expand "$UNSET" "UNSET")) ∧
      ∃ options, line.consoleChoice { config with consolePath := none } ⟨[]⟩ .empty = .ok (options, none, .empty) := by
  intro line config
  have hunset : config.console ⟨[]⟩ = .error (.expand "$UNSET" "UNSET") :=
    Config.console_unset ['U', 'N', 'S', 'E', 'T'] rfl (List.cons_ne_nil _ _)
      (List.all_eq_true.mp (by decide)) rfl
  refine ⟨rfl, ?_, line.optionsWith config none, rfl⟩
  unfold consoleChoice
  rw [runOptions_of_setting rfl, hunset]
  rfl

end CommandLine

end BatchJob
