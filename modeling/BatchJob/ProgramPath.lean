import BatchJob.Text.Blank

/-!
# Finding a program

A name that contains a slash is a path already. Any other name is searched for in the directories of a
search path, whose empty components are passed over.
-/

namespace BatchJob.ProgramPath

/-- The pieces of a text between the characters equal to `separator`. -/
def splitOn (separator : Char) : List Char → List (List Char)
  | [] => [[]]
  | c :: rest =>
    if c = separator then [] :: splitOn separator rest
    else
      match splitOn separator rest with
      | [] => [[c]]
      | piece :: pieces => (c :: piece) :: pieces

/-- The directories of a search path. -/
def directories (searchPath : String) : List String :=
  ((splitOn ':' searchPath.toList).filter (!·.isEmpty)).map String.ofList

/-- A directory and a name in it, with one slash between them unless the directory ends in one. -/
def join (directory name : String) : String :=
  if directory.toList.getLast? = some '/' then directory ++ name else directory ++ "/" ++ name

/-- The path to execute for a program name, where `executable` says which paths can be executed. -/
def resolve? (executable : String → Bool) (program : String) (searchPath : Option String) :
    Option String :=
  if program.isEmpty then none
  else if '/' ∈ program.toList then some program
  else
    match searchPath with
    | none => none
    | some searchPath =>
      ((directories searchPath).map (join · program)).find? executable

end BatchJob.ProgramPath
