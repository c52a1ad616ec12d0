import Mathlib.Data.List.Basic
import BatchJob.Machine.Launcher
import BatchJob.Proofs.Environment.Pairs
import BatchJob.Proofs.FileSystem.Executables
import BatchJob.Proofs.Text.Octets

/-!
# What executing a path comes to

Executing a path comes to a program of the system, be it the one that stands there or the interpreter that a script
there names, which may be a script in turn (`Executes`). A request can be handed over to it if its texts have no NUL
characters in them and are not too much (`HandsOver`). Both together say what a request comes to at a path (`Comes`),
and what the launcher computes for the path is just that (`imageOf_eq_ok_iff`).
-/

namespace BatchJob.Machine

open Environment

variable {fs : FileSystem} {request : SpawnRequest} {path : String} {image : Image} {n : Nat} {arguments : List String}

/-! ## Interpreters -/

/-- Executing a path with arguments comes to an image: to the program of the system that stands there, or to what the
interpreter comes to that the script there names in its first line. Up to `n` files may stand one behind the other. -/
inductive Executes (fs : FileSystem) : Nat → String → List String → Image → Prop
  | program {n : Nat} {path program : String} {arguments : List String}
      (there : fs.lookup (Text.ofOctets path) = .ok (.program program)) :
      Executes fs (n + 1) path arguments { program, arguments }
  | script {n mode : Nat} {path name : String} {content : ByteArray} {argument : Option String}
      {arguments : List String} {image : Image} (there : fs.lookup (Text.ofOctets path) = .ok (.file mode content))
      (executable : FileSystem.HasExecuteBit mode) (names : Image.interpreter? content = some (name, argument))
      (interpreted : Executes fs n name ([name] ++ argument.toList ++ [path] ++ arguments.drop 1) image) :
      Executes fs (n + 1) path arguments image

/-- What can be executed is a regular file with an execute bit. -/
theorem find_eq_ok_iff {node : Node} :
    Image.find fs path = .ok node ↔ fs.lookup (Text.ofOctets path) = .ok node ∧ FileSystem.IsRegular node ∧
      FileSystem.HasExecuteBit (FileSystem.modeOf node) := by
  unfold Image.find
  cases hlookup : fs.lookup (Text.ofOctets path) with
  | error e =>
    cases e <;> simp
  | ok found =>
    cases found with
    | file mode content =>
      have hbit : FileSystem.HasExecuteBit mode ↔ mode &&& FileSystem.executeBits ≠ 0 := by
        rw [← FileSystem.hasExecuteBit_iff, bne_iff_ne]
      by_cases hmode : mode &&& FileSystem.executeBits = 0
      · simp only [hmode, if_true, reduceCtorEq, false_iff]
        rintro ⟨heq, -, hexecutable⟩
        cases heq
        exact hbit.mp hexecutable hmode
      · simp only [hmode, if_false, Except.ok.injEq]
        constructor
        · rintro rfl
          exact ⟨rfl, trivial, hbit.mpr hmode⟩
        · exact fun h => h.1
    | program name =>
      simp only [Except.ok.injEq]
      constructor
      · rintro rfl
        exact ⟨rfl, trivial, FileSystem.hasExecuteBit_program name⟩
      · exact fun h => h.1
    | directory | fifo | channel | null | full | zero =>
      simp only [reduceCtorEq, Except.ok.injEq, false_iff]
      rintro ⟨rfl, hregular, -⟩
      exact hregular

/-- The file that a search finds is the one that is executed. -/
theorem find_of_executableFile (h : fs.ExecutableFile path) :
    ∃ node, fs.lookup path = .ok node ∧ Image.find fs (Text.toOctets path) = .ok node := by
  obtain ⟨node, hlookup, hregular, hbit⟩ := h
  refine ⟨node, hlookup, find_eq_ok_iff.mpr ⟨?_, hregular, hbit⟩⟩
  rw [Text.ofOctets_toOctets]
  exact hlookup

/-- Following the interpreters is executing. -/
theorem resolve_eq_ok_iff : Image.resolve fs n path arguments = .ok image ↔ Executes fs n path arguments image := by
  -- the induction goes along the interpreters, each of which gets other arguments
  induction n generalizing path arguments with
  | zero =>
    constructor
    · rintro ⟨⟩
    · rintro ⟨⟩
  | succ n ih =>
    unfold Image.resolve
    constructor
    · intro h
      split at h
      next => cases h
      next hfind =>
        cases h
        exact .program (find_eq_ok_iff.mp hfind).1
      next hfind =>
        obtain ⟨hthere, -, hexecutable⟩ := find_eq_ok_iff.mp hfind
        split at h
        next => cases h
        next hnames => exact .script hthere hexecutable hnames (ih.mp h)
      next => cases h
    · intro h
      cases h with
      | program there =>
        have hfind := find_eq_ok_iff.mpr ⟨there, trivial, FileSystem.hasExecuteBit_program _⟩
        simp only [hfind]
      | script there executable names interpreted =>
        have hfind := find_eq_ok_iff.mpr ⟨there, trivial, executable⟩
        simp only [hfind, names]
        exact ih.mpr interpreted

/-! ## Texts that are handed over -/

theorem eraseDups_eq_self {l : List String} (h : l.Nodup) : l.eraseDups = l := by
  induction l with
  | nil => rfl
  | cons a l ih =>
    obtain ⟨hfresh, hrest⟩ := List.nodup_cons.mp h
    have hothers : l.filter (fun b => !b == a) = l :=
      List.filter_eq_self.mpr fun b hb => by simpa using fun heq : b = a => hfresh (heq ▸ hb)
    rw [List.eraseDups_cons, hothers, ih hrest]

/-- If no key comes twice, the last pair of a key is its only one. -/
theorem lastValue?_eq_lookup {pairs : List (String × String)} (distinct : (pairs.map Prod.fst).Nodup) (key : String) :
    lastValue? pairs key = pairs.lookup key := by
  unfold lastValue?
  induction pairs with
  | nil => rfl
  | cons pair rest ih =>
    obtain ⟨k, v⟩ := pair
    obtain ⟨hfresh, hrest⟩ := List.nodup_cons.mp distinct
    rw [List.reverse_cons, List.lookup_append, ih hrest]
    -- The first pair comes last, where it counts only if none of the others has its key.
    by_cases hkey : key = k
    · rw [hkey, lookup_eq_none_iff.mpr hfresh, List.lookup_cons_self, List.lookup_cons_self, Option.none_or]
    · rw [lookup_cons_ne hkey, lookup_cons_ne hkey, List.lookup_nil, Option.or_none]

theorem lookup_of_mem {pairs : List (String × String)} {key value : String} (distinct : (pairs.map Prod.fst).Nodup)
    (mem : (key, value) ∈ pairs) : pairs.lookup key = some value := by
  induction pairs with
  | nil => cases mem
  | cons pair rest ih =>
    obtain ⟨hfresh, hrest⟩ := List.nodup_cons.mp distinct
    rcases List.mem_cons.mp mem with rfl | hlater
    · exact List.lookup_cons_self
    · have hne : key ≠ pair.1 := fun heq => hfresh (heq ▸ List.mem_map_of_mem hlater)
      rw [← ih hrest hlater]
      exact lookup_cons_ne hne

/-- A program gets every pair of an environment in which no key comes twice, if in another order. -/
theorem effective_perm {environment : List (String × String)} (distinct : (environment.map Prod.fst).Nodup) :
    (effective environment).Perm environment := by
  have hkeys : ((environment.map Prod.fst).mergeSort fun a b => a ≤ b).Perm (environment.map Prod.fst) :=
    List.mergeSort_perm _ _
  have hpairs : (environment.map Prod.fst).filterMap (fun key => (lastValue? environment key).map (key, ·)) =
      environment := by
    rw [List.filterMap_map]
    refine (List.filterMap_congr fun pair hpair => ?_).trans List.filterMap_some
    show (lastValue? environment pair.1).map (pair.1, ·) = some pair
    rw [lastValue?_eq_lookup distinct, lookup_of_mem distinct hpair]
    rfl
  unfold effective
  rw [eraseDups_eq_self (hkeys.nodup_iff.mpr distinct)]
  exact (hkeys.filterMap _).trans (.of_eq hpairs)

/-- The arguments that a program gets when a path is executed for a request. -/
def argumentsAt (path : String) (request : SpawnRequest) : List String :=
  (if request.arguments.isEmpty then [path] else request.arguments).map Text.toOctets

/-- What a program gets when a path is executed for a request: its arguments, and the entries of its environment. -/
def textsAt (path : String) (request : SpawnRequest) : List String :=
  argumentsAt path request ++ (environmentOf request).map fun (key, value) => key ++ "=" ++ value

/-- If no key comes twice, these are the texts of the request, if in another order. -/
theorem textsAt_perm (distinct : (request.environment.map Prod.fst).Nodup) :
    (textsAt path request).Perm (argumentsAt path request ++
      (entriesOf request.environment).map fun (key, value) => key ++ "=" ++ value) :=
  (((effective_perm distinct).map _).map _).append_left _

/-- A request can be handed over to a program: no text has a NUL character in it, and neither one of them alone nor all
together are too long. -/
structure HandsOver (request : SpawnRequest) (path : String) : Prop where
  plainPath : '\x00' ∉ path.toList
  plainArguments : ∀ argument ∈ request.arguments, '\x00' ∉ argument.toList
  plainEnvironment : ∀ key value, (key, value) ∈ request.environment → '\x00' ∉ key.toList ∧ '\x00' ∉ value.toList
  each : ∀ text ∈ textsAt path request, Image.size text ≤ Image.maxArgument
  all : ((textsAt path request).map Image.sizeWithReference).foldl (· + ·) 0 ≤ Image.maxTotal

/-- What a request comes to when it is to execute a path. -/
def Comes (fs : FileSystem) (request : SpawnRequest) (path : String) (image : Image) : Prop :=
  HandsOver request path ∧ Executes fs Image.maxInterpreters (Text.toOctets path) (argumentsAt path request) image

theorem fits_iff {texts : List String} :
    Image.fits texts = true ↔ (∀ text ∈ texts, Image.size text ≤ Image.maxArgument) ∧
      (texts.map Image.sizeWithReference).foldl (· + ·) 0 ≤ Image.maxTotal := by
  simp [Image.fits]

theorem isPassable_iff : isPassable path request = true ↔ '\x00' ∉ path.toList ∧
    (∀ argument ∈ request.arguments, '\x00' ∉ argument.toList) ∧
    ∀ key value, (key, value) ∈ request.environment → '\x00' ∉ key.toList ∧ '\x00' ∉ value.toList := by
  simp [isPassable, isPlain, and_assoc]

theorem load_eq_ok_iff {environment : List (String × String)} :
    Image.load fs path arguments environment = .ok image ↔
      Image.fits (arguments ++ environment.map fun (key, value) => key ++ "=" ++ value) = true ∧
        Executes fs Image.maxInterpreters path arguments image := by
  rw [← resolve_eq_ok_iff]
  unfold Image.load
  cases hfind : Image.find fs path with
  | error e => simp [Image.maxInterpreters, Image.resolve, hfind]
  | ok node =>
    simp only
    split
    next hfits => simp only [hfits, true_and]
    next hfits => simp only [hfits, reduceCtorEq, false_and]

/-- What the launcher starts is what the request comes to at the path that is found. -/
theorem imageOf_eq_ok_iff (found : programPath? fs request = some path) :
    imageOf fs request = .ok image ↔ Comes fs request path image := by
  have hcomes : Comes fs request path image ↔ isPassable path request = true ∧
      Image.load fs (Text.toOctets path) (argumentsAt path request) (environmentOf request) = .ok image := by
    rw [load_eq_ok_iff, fits_iff, isPassable_iff]
    constructor
    · rintro ⟨⟨hpath, harguments, henvironment, heach, hall⟩, hexecutes⟩
      exact ⟨⟨hpath, harguments, henvironment⟩, ⟨heach, hall⟩, hexecutes⟩
    · rintro ⟨⟨hpath, harguments, henvironment⟩, ⟨heach, hall⟩, hexecutes⟩
      exact ⟨⟨hpath, harguments, henvironment, heach, hall⟩, hexecutes⟩
  rw [hcomes]
  unfold imageOf
  rw [found]
  by_cases hpassable : isPassable path request = true
  · simp only [hpassable, if_true, true_and]
    show (Image.load fs (Text.toOctets path) (argumentsAt path request) (environmentOf request)).mapError _ = _ ↔ _
    cases Image.load fs (Text.toOctets path) (argumentsAt path request) (environmentOf request) with
    | error e => simp [Except.mapError]
    | ok loaded => simp [Except.mapError]
  · simp [hpassable]

/-- If a path is found, nothing but the start of the program can fail. -/
theorem imageOf_eq_error (found : programPath? fs request = some path) (h : ¬ ∃ image, Comes fs request path image) :
    ∃ cause, imageOf fs request = .error (.spawn request.program cause) := by
  cases himage : imageOf fs request with
  | ok image => exact absurd ⟨image, (imageOf_eq_ok_iff found).mp himage⟩ h
  | error e =>
    unfold imageOf at himage
    rw [found] at himage
    simp only at himage
    split at himage
    next =>
      generalize Image.load fs _ _ _ = loaded at himage
      cases loaded with
      | error errno =>
        cases himage
        exact ⟨_, rfl⟩
      | ok image => cases himage
    next =>
      cases himage
      exact ⟨_, rfl⟩

end BatchJob.Machine
