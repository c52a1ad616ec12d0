import BatchJob.Machine.Programs.Basic
import BatchJob.FileSystem.Changes

/-!
# Listing directories

The program that shows the names in directories, one a line, and what is below them if it is asked to.
-/

namespace BatchJob.Machine.Programs.Listing

/-- How names are shown. -/
structure Manner where
  showsHidden : Bool := false
  showsDots : Bool := false
  marksDirectories : Bool := false
  marksAll : Bool := false
  reverses : Bool := false
  separator : String := "\n"
  /-- How a single name is written. -/
  written : String → String := id
  /-- The patterns of names that are not shown, as far as they are names. -/
  hides : String → Bool := fun _ => false
  /-- What comes before the name where names are put in order. -/
  rank : FileSystem → String → Nat := fun _ _ => 0

/-- The mark after a name that says what it is the name of. -/
def mark (manner : Manner) (fs : FileSystem) (path : String) : String :=
  match nodeAt fs path with
  | .ok (.directory _) => if manner.marksAll || manner.marksDirectories then "/" else ""
  | .ok (.fifo ..) | .ok (.channel _) => if manner.marksAll then "|" else ""
  | .ok node =>
    if manner.marksAll && FileSystem.modeOf node &&& FileSystem.executeBits != 0 then "*" else ""
  | .error _ => ""

/-- Names in order, each with the path that it stands for. -/
def sorted (manner : Manner) (fs : FileSystem) (names : List (String × String)) : List (String × String) :=
  let le (a b : String × String) : Bool :=
    let (m, n) := (manner.rank fs a.2, manner.rank fs b.2)
    m < n || (m = n && a.1 ≤ b.1)
  let names := names.mergeSort le
  if manner.reverses then names.reverse else names

/-- The lines of some names. -/
def lines (manner : Manner) (fs : FileSystem) (names : List (String × String)) : String :=
  let shown := names.map fun (name, path) => manner.written name ++ mark manner fs path
  if shown.isEmpty then "" else manner.separator.intercalate shown ++ "\n"

/-- A name in a directory as a path. -/
def within (directory name : String) : String :=
  if directory.endsWith "/" then directory ++ name else directory ++ "/" ++ name

/-- The names in a directory that are shown, each with its path. -/
def namesIn (manner : Manner) (fs : FileSystem) (directory : String) : List (String × String) :=
  let names := (fs.namesIn (Text.ofOctets directory)).map Text.toOctets
  let dots := if manner.showsDots then [".", ".."] else []
  let shown := names.filter fun name =>
    (manner.showsHidden || manner.showsDots || !name.startsWith ".") && !manner.hides name
  sorted manner fs ((dots ++ shown).map fun name => (name, within directory name))

/-- Directories with all that is below them, in the order in which they are shown. The fuel bounds the depth. -/
def withAllBelow (manner : Manner) (fs : FileSystem) (fuel : Nat) (directory : String) : List String :=
  match fuel with
  | 0 => []
  | fuel + 1 =>
    let inner := (namesIn manner fs directory).filter fun (name, path) =>
      name ≠ "." && name ≠ ".." && isDirectory fs path
    directory :: inner.flatMap fun (_, path) => withAllBelow manner fs fuel path

/-- How options say that names are shown. -/
def mannerOf (options : Options) : Manner :=
  let size (fs : FileSystem) (path : String) : Nat :=
    match nodeAt fs path with
    | .ok (.file _ content) => content.size
    | .ok (.directory _) => 4096
    | _ => 0
  let last := options.last? ["U", "f", "S", "sort"]
  let style := options.last? ["Q", "b", "N", "quoting-style"]
  { showsHidden := options.has "A"
    showsDots := options.last? ["a", "A"] = some "a" || options.has "f"
    marksDirectories := options.has "p" || ["slash"].contains ((options.value? "indicator-style").getD "")
    marksAll := options.has "F" || ["classify", "file-type"].contains ((options.value? "indicator-style").getD "")
    reverses := options.has "r" && !(last = some "U" || last = some "f")
    separator := if options.has "m" || options.value? "format" = some "commas" then ", "
      else if options.has "zero" then "\x00" else "\n"
    written := if style = some "Q" then (fun name => "\"" ++ name ++ "\"")
      else if style = some "b" then (fun name => "\\ ".intercalate (name.splitOn " ")) else id
    hides := fun name => (options.has "B" && name.endsWith "~") ||
      options.any fun (key, value) => key = "I" && value = name
    rank := fun fs path =>
      if last = some "S" || options.value? "sort" = some "size" then Nat.pow 2 62 - size fs path else 0 }

/-- The options of the program. -/
def known : List Known :=
  [flag "a all", flag "A almost-all", flag "b escape", flag "B ignore-backups", flag "c", flag "C", flag "d directory",
    flag "f", maybeValued "classify", flag "F", flag "file-type", flag "h human-readable", flag "i inode",
    flag "k kibibytes", flag "l", flag "L dereference", flag "m", flag "n numeric-uid-gid", flag "N literal",
    flag "o", flag "p", flag "q hide-control-chars", flag "Q quote-name", flag "r reverse", flag "R recursive",
    flag "s size", flag "S", flag "t", flag "u", flag "U", flag "v", flag "x", flag "X", flag "g", flag "G no-group",
    flag "H dereference-command-line", flag "1", flag "zero", valued "I ignore", valued "hide", valued "T tabsize",
    valued "w width", valued "sort", valued "time", valued "format", valued "indicator-style", valued "quoting-style",
    valued "block-size", maybeValued "color", maybeValued "hyperlink", flag "group-directories-first",
    flag "show-control-chars", flag "author", flag "full-time", valued "time-style", flag "D dired", flag "Z context"]

end Listing

open Listing in
/-- Shows names of files, and the names in directories, under the name of the directory where there is more than one
operand. -/
def ls : Program := fun call => do
  let (options, operands) ← takeOptions call known 2
  let manner := mannerOf options
  let fs ← Act.look
  let paths := if operands.isEmpty then ["."] else operands
  let mut status := 0
  for path in paths do
    match nodeAt fs path with
    | .ok _ => pure ()
    | .error e =>
      remark call ("cannot access " ++ Named.quoted path ++ ": " ++ e.libraryPhrase)
      status := 2
  let there := sorted manner fs ((paths.filter (isThere fs)).map fun path => (path, path))
  let showsWhole (path : String) : Bool := options.has "d" || !isDirectory fs path
  let files := there.filter fun (_, path) => showsWhole path
  let directories := (there.filter fun (_, path) => !showsWhole path).map Prod.snd
  let directories := if options.has "R" then directories.flatMap (withAllBelow manner fs (fs.names.length + 1))
    else directories
  let isNamed := options.has "R" || 1 < paths.length
  let part (path : String) : String :=
    (if isNamed then path ++ ":\n" else "") ++ lines manner fs (namesIn manner fs path)
  let parts := (if files.isEmpty then [] else [lines manner fs files]) ++ directories.map part
  write call ("\n".intercalate parts) 2
  Act.exit status

end BatchJob.Machine.Programs
