import BatchJob.Proofs.Environment.Layers
import BatchJob.Proofs.Machine.Images
import BatchJob.Proofs.Machine.Steps
import BatchJob.Proofs.ProgramPath

/-!
# Which program is launched

A request is launched in two steps: a path is found for the name of the program, and the path is executed. The search
goes by the effective PATH of the environment that the request hands over, which comes from STDENV or from what every
child starts with, and from nowhere else. After the launch there is one process more in the table, under the number
that is answered, and it runs what the request comes to at the path (`Launched`). The main statement is
`launches_first_executable`.
-/

namespace BatchJob.Machine

open Environment ProgramPath

variable {fs : FileSystem} {stdio : List (Nat × Descriptor)} {request : SpawnRequest} {m : Machine} {path : String}

/-! ## A new process -/

/-- A child of the supervisor runs an image for a request, from its start. -/
structure Process.Runs (p : Process) (stdio : List (Nat × Descriptor)) (request : SpawnRequest) (image : Image) :
    Prop where
  parent : p.parent = supervisor
  group : p.group = if request.newGroup then p.pid else supervisor
  descriptors : p.descriptors = stdio
  /-- What it is to do is the program of the image, called with its arguments and the environment of the request. -/
  task : p.task = Programs.task image.program (image.arguments.headD "") (image.arguments.drop 1)
    (environmentOf request)
  live : p.isLive = true
  awake : p.isStopped = false ∧ p.wakesAt = none
  /-- No signal has been sent to it, and every signal has its usual effect. -/
  undisturbed : p.pending = [] ∧ p.noted = [] ∧ p.regards = []

theorem runs_newProcess (stdio : List (Nat × Descriptor)) (request : SpawnRequest) (image : Image) (pid : Pid) :
    (newProcess stdio request image pid).Runs stdio request image where
  parent := rfl
  group := rfl
  descriptors := rfl
  task := rfl
  live := rfl
  awake := ⟨rfl, rfl⟩
  undisturbed := ⟨rfl, rfl, rfl⟩

/-- What has become of a launch that was to execute a path, on a machine as it was before. -/
structure Launched (fs : FileSystem) (stdio : List (Nat × Descriptor)) (request : SpawnRequest) (path : String)
    (m : Machine) (launched : Except LaunchError Pid × Machine) : Prop where
  /-- There is one process more, which runs what the request comes to at the path. Its number is answered, and the
  process is found under it, unless one from before has the number. -/
  starts : ∀ image, Comes fs request path image → ∃ p : Process, p.Runs stdio request image ∧ launched.1 = .ok p.pid ∧
    launched.2.processes = m.processes ++ [p] ∧ (p.pid ∉ m.pids → launched.2.process? p.pid = some p)
  /-- If the request comes to nothing there, the launch fails with the name of the program, and nothing has changed. -/
  fails : (¬ ∃ image, Comes fs request path image) →
    ∃ cause, launched = (.error (.spawn request.program cause), m)

/-- The process that stands last in the table is the one with its number, if no other has it. -/
theorem process?_of_fresh {m' : Machine} {p : Process} (processes : m'.processes = m.processes ++ [p])
    (fresh : p.pid ∉ m.pids) : m'.process? p.pid = some p := by
  have hbefore : m.processes.find? (·.pid = p.pid) = none := by
    rw [List.find?_eq_none]
    intro q hq hsame
    exact fresh (of_decide_eq_true hsame ▸ List.mem_map_of_mem hq)
  unfold process?
  rw [processes, List.find?_append, hbefore, Option.none_or]
  exact List.find?_cons_of_pos (decide_eq_true rfl)

/-- **What is found is executed.** -/
theorem spawn_of_some (found : programPath? fs request = some path) :
    Launched fs stdio request path m ((launcher stdio fs).spawn request m) := by
  rw [spawn_eq]
  constructor
  · intro image hcomes
    rw [(imageOf_eq_ok_iff found).mpr hcomes]
    exact ⟨newProcess stdio request image (m.lastPid + 1), runs_newProcess .., rfl, rfl, process?_of_fresh rfl⟩
  · intro h
    obtain ⟨cause, hcause⟩ := imageOf_eq_error found h
    rw [hcause]
    exact ⟨cause, rfl⟩

theorem Launched.ne_notFound {launched : Except LaunchError Pid × Machine}
    (h : Launched fs stdio request path m launched) (other : String) : launched.1 ≠ .error (.notFound other) := by
  by_cases himage : ∃ image, Comes fs request path image
  · obtain ⟨image, hcomes⟩ := himage
    obtain ⟨p, -, hresult, -⟩ := h.starts image hcomes
    rw [hresult]
    rintro ⟨⟩
  · obtain ⟨cause, hfailed⟩ := h.fails himage
    rw [hfailed]
    rintro ⟨⟩

theorem spawn_of_none (absent : programPath? fs request = none) :
    (launcher stdio fs).spawn request m = (.error (.notFound request.program), m) := by
  have himage : imageOf fs request = .error (.notFound request.program) := by
    unfold imageOf
    rw [absent]
  rw [spawn_eq, himage]

/-- **A launch fails as not found exactly if there is no path for its program.** -/
theorem spawn_notFound_iff {other : String} :
    ((launcher stdio fs).spawn request m).1 = .error (.notFound other) ↔
      other = request.program ∧ programPath? fs request = none := by
  cases hpath : programPath? fs request with
  | none =>
    rw [spawn_of_none hpath]
    simp [eq_comm]
  | some path =>
    have hlaunched : Launched fs stdio request path m ((launcher stdio fs).spawn request m) := spawn_of_some hpath
    simp [hlaunched.ne_notFound other]

/-! ## The search -/

/-- The search goes by the effective PATH. -/
theorem programPath?_eq {env : Environment} (environment : request.environment = env.pairs) :
    programPath? fs request = resolve? fs.isExecutable request.program (env.get? "PATH") := by
  obtain ⟨entries⟩ := env
  have hresolved := resolved_pairs entries
  unfold programPath?
  rw [environment, lastValue?_eq_lookup hresolved.distinct, hresolved.lookup]

theorem isExecutable_eq : (fs.isExecutable · = true) = fs.ExecutableFile :=
  funext fun _ => propext FileSystem.isExecutable_iff

/-- A name without a slash, be it empty, is found where its first directory is. -/
theorem resolve?_bare {name searchPath : String} (noSlash : '/' ∉ name.toList) :
    resolve? fs.isExecutable name (some searchPath) = some path ↔
      ∃ directory, FirstDirectory fs.ExecutableFile searchPath name directory ∧ path = join directory name := by
  by_cases hname : name = ""
  · -- A directory and no name make a path that ends in a slash, and no regular file is there.
    subst hname
    rw [resolve?_empty]
    simp only [reduceCtorEq, false_iff]
    rintro ⟨directory, ⟨_, _, -, -, hexecutable, -⟩, -⟩
    exact FileSystem.not_executableFile_of_slash (join_empty directory) hexecutable
  · rw [resolve?_eq_some_iff hname noSlash, isExecutable_eq]

theorem resolve?_bare_eq_none_iff {name searchPath : String} (noSlash : '/' ∉ name.toList) :
    resolve? fs.isExecutable name (some searchPath) = none ↔
      ¬ ∃ directory, FirstDirectory fs.ExecutableFile searchPath name directory := by
  rw [Option.eq_none_iff_forall_ne_some]
  simp only [ne_eq, resolve?_bare noSlash]
  constructor
  · rintro h ⟨directory, hfirst⟩
    exact h _ ⟨directory, hfirst, rfl⟩
  · rintro h _ ⟨directory, hfirst, -⟩
    exact h ⟨directory, hfirst⟩

/-- The effective PATH is that of the last line of STDENV that sets it, and the default if none does. -/
theorem exists_searchPath (account : Account) (stdenv : Option String) :
    ∃ searchPath, (build account stdenv).get? "PATH" = some searchPath ∧
      (LastSets (stdenvLines stdenv) "PATH" searchPath ∨
        (¬ SetBy (stdenvLines stdenv) "PATH" ∧ searchPath = "/bin:/usr/bin")) := by
  have hvalue (value : String) : (build account stdenv).get? "PATH" = some value ↔ _ :=
    get?_build_eq_some_iff account stdenv (by decide) (by decide)
  by_cases h : SetBy (stdenvLines stdenv) "PATH"
  · obtain ⟨searchPath, hlast⟩ := exists_lastSets h
    exact ⟨searchPath, (hvalue searchPath).mpr (.inl hlast), .inl hlast⟩
  · exact ⟨"/bin:/usr/bin", (hvalue _).mpr (.inr ⟨h, rfl⟩), .inr ⟨h, rfl⟩⟩

/-- **A program is launched from the first directory of the child's PATH that has it.** The effective PATH is that of
the last line of STDENV that sets it, and the default if none does. A name without a slash is executed in the first
directory of that PATH with a regular file of that name that somebody may execute; the launch fails as not found, with
the name of the program, exactly if there is no such directory. Whatever the environment, a name with a slash is
executed as it stands, and no name at all is not found. What a lifecycle asks for is a launch with just these pairs, and
the processes that it leaves are those after this launch. -/
theorem launches_first_executable (account : Account) (stdenv : Option String) (fs : FileSystem)
    (stdio : List (Nat × Descriptor)) (request : SpawnRequest) (m : Machine) :
    let env := build account stdenv
    let name := request.program
    let launched := (launcher stdio fs).spawn request m
    (request.environment = env.pairs →
      ∃ searchPath, env.get? "PATH" = some searchPath ∧
        (LastSets (stdenvLines stdenv) "PATH" searchPath ∨
          (¬ SetBy (stdenvLines stdenv) "PATH" ∧ searchPath = "/bin:/usr/bin")) ∧
        ('/' ∉ name.toList →
          (∀ directory, FirstDirectory fs.ExecutableFile searchPath name directory →
            Launched fs stdio request (join directory name) m launched ∧
              ∃ node, fs.lookup (join directory name) = .ok node ∧
                Image.find fs (Text.toOctets (join directory name)) = .ok node) ∧
          ∀ other, launched.1 = .error (.notFound other) ↔
            other = name ∧ ¬ ∃ directory, FirstDirectory fs.ExecutableFile searchPath name directory)) ∧
    ('/' ∈ name.toList → Launched fs stdio request name m launched) ∧
    (name = "" → launched = (.error (.notFound name), m)) ∧
    ∀ (s : Lifecycle Machine) (program : List String),
      let asked := Lifecycle.requestFor program account env
      asked.environment = env.pairs ∧
        (s.spawn (launcher stdio fs) program account env).1 =
          ((launcher stdio fs).spawn asked s.host).1.mapError .launch ∧
        (s.spawn (launcher stdio fs) program account env).2.host = ((launcher stdio fs).spawn asked s.host).2 := by
  intro env name launched
  refine ⟨?_, ?_, ?_, ?_⟩
  · intro environment
    obtain ⟨searchPath, hsearch, horigin⟩ := exists_searchPath account stdenv
    have hpath : programPath? fs request = resolve? fs.isExecutable name (some searchPath) := by
      rw [programPath?_eq environment, hsearch]
    refine ⟨searchPath, hsearch, horigin, ?_⟩
    intro noSlash
    constructor
    · intro directory hfirst
      have hfound : programPath? fs request = some (join directory name) := by
        rw [hpath, resolve?_bare noSlash]
        exact ⟨directory, hfirst, rfl⟩
      obtain ⟨_, _, -, -, hexecutable, -⟩ := hfirst
      exact ⟨spawn_of_some hfound, find_of_executableFile hexecutable⟩
    · intro other
      rw [← resolve?_bare_eq_none_iff noSlash, ← hpath]
      exact spawn_notFound_iff
  · intro slash
    exact spawn_of_some (resolve?_of_slash slash _)
  · intro hempty
    have habsent : programPath? fs request = none := by
      unfold programPath?
      rw [show request.program = "" from hempty, resolve?_empty]
    exact spawn_of_none habsent
  · intro s program asked
    have hpairs : asked.environment = env.pairs := Lifecycle.requestFor_environment program account env
    obtain ⟨hasked, hhost, -⟩ := s.spawn_requestFor (launcher stdio fs) program account env
    exact ⟨hpairs, hasked, hhost⟩

/-- A directory `x` with a directory `a` and a file `b` in it that nobody may execute, and a directory `y` with a
program `a`, which is `cat`. -/
def shadowed : FileSystem :=
  [(["x"], .directory 0o755), (["x", "a"], .directory 0o755), (["x", "b"], .file 0o644 .empty),
    (["y"], .directory 0o755), (["y", "a"], .program "cat")].foldl (fun fs (name, node) => fs.addNamed name node)
    FileSystem.empty

/-- A request for a program by its name, with an environment. -/
def requestNamed (name : String) (env : Environment) : SpawnRequest where
  program := name
  arguments := [name]
  environment := env.pairs
  newGroup := true

/-- A search path with an empty component and a directory of the right name. -/
def searching : Environment :=
  build ⟨"tester", "/u/tester", "/bin/sh"⟩ (some "PATH=:x/:y\n")

/-- The program behind them comes to itself. -/
theorem comes_shadowed : Comes shadowed (requestNamed "a" searching) "y/a" ⟨"cat", ["a"]⟩ := by
  have htexts : (textsAt "y/a" (requestNamed "a" searching)).Perm _ :=
    textsAt_perm (resolved_pairs searching.entries).distinct
  have hplain : ∀ pair ∈ searching.pairs, '\x00' ∉ pair.1.toList ∧ '\x00' ∉ pair.2.toList := by decide +kernel
  have hthere : shadowed.lookup (Text.ofOctets (Text.toOctets "y/a")) = .ok (.program "cat") := by cbv
  have hcalled : argumentsAt "y/a" (requestNamed "a" searching) = ["a"] := by
    show ["a"].map Text.toOctets = ["a"]
    decide +kernel
  refine ⟨⟨by decide, by decide, fun key value hpair => hplain (key, value) hpair, ?_, ?_⟩, ?_⟩
  · intro text htext
    rw [htexts.mem_iff] at htext
    revert text
    decide +kernel
  · rw [(htexts.map _).foldl_eq 0]
    decide +kernel
  · rw [hcalled]
    exact .program hthere

/-- A search path with an empty component and a directory of the right name: the program is executed that stands behind
them, and is the one process of the machine. A file that nobody may execute, by its name and by its path; and no
name. -/
theorem launches_first_executable_shadowed :
    (∃ p : Process, p.Runs plumbed (requestNamed "a" searching) ⟨"cat", ["a"]⟩ ∧
      ((launcher plumbed shadowed).spawn (requestNamed "a" searching) {}).1 = .ok p.pid ∧
      ((launcher plumbed shadowed).spawn (requestNamed "a" searching) {}).2.processes = [p]) ∧
    ((launcher plumbed shadowed).spawn (requestNamed "b" searching) {}).1 = .error (.notFound "b") ∧
    (∃ cause, (launcher plumbed shadowed).spawn (requestNamed "x/b" searching) {} = (.error (.spawn "x/b" cause), {})) ∧
    (launcher plumbed shadowed).spawn (requestNamed "" searching) {} = (.error (.notFound ""), {}) := by
  have launch (name : String) :=
    launches_first_executable ⟨"tester", "/u/tester", "/bin/sh"⟩ (some "PATH=:x/:y\n") shadowed plumbed
      (requestNamed name searching) {}
  have hsearch : searching.get? "PATH" = some ":x/:y" := by decide +kernel
  refine ⟨?_, ?_, ?_, (launch "").2.2.1 rfl⟩
  · obtain ⟨searchPath, hpath, -, hbare⟩ := (launch "a").1 rfl
    obtain rfl : ":x/:y" = searchPath := Option.some.inj (hsearch.symm.trans hpath)
    have hfirst : FirstDirectory shadowed.ExecutableFile ":x/:y" "a" "y" := by
      rw [← isExecutable_eq, firstDirectory_iff]
      cbv
    have hlaunched := ((hbare (by decide)).1 "y" hfirst).1
    rw [show join "y" (requestNamed "a" searching).program = "y/a" from by decide] at hlaunched
    obtain ⟨p, hruns, hresult, hprocesses, -⟩ := hlaunched.starts _ comes_shadowed
    exact ⟨p, hruns, hresult, hprocesses⟩
  · obtain ⟨searchPath, hpath, -, hbare⟩ := (launch "b").1 rfl
    obtain rfl : ":x/:y" = searchPath := Option.some.inj (hsearch.symm.trans hpath)
    have hnone : ¬ ∃ directory, FirstDirectory shadowed.ExecutableFile ":x/:y" "b" directory :=
      (resolve?_bare_eq_none_iff (by decide)).mp (by cbv)
    exact ((hbare (by decide)).2 "b").mpr ⟨rfl, hnone⟩
  · refine ((launch "x/b").2.1 (by decide)).fails ?_
    rintro ⟨image, -, hexecutes⟩
    have hthere : shadowed.lookup (Text.ofOctets (Text.toOctets "x/b")) = .ok (.file 0o644 .empty) := by cbv
    cases hexecutes with
    | program there =>
      rw [show (requestNamed "x/b" searching).program = "x/b" from rfl, hthere] at there
      cases there
    | script there executable names interpreted =>
      rw [show (requestNamed "x/b" searching).program = "x/b" from rfl, hthere] at there
      cases there
      cases names

end BatchJob.Machine
