import BatchJob.FileSystem.Basic
import BatchJob.Text.Octets

/-!
# Images

What executing a path comes to: a program of the system with its arguments, found directly or as the
interpreter that the first line of a script names, or the error that the system reports. All texts are texts of
octets.
-/

namespace BatchJob.Machine

/-- A program of the system, and what it is called with from its name on. -/
structure Image where
  program : String
  arguments : List String
  deriving DecidableEq, Repr

namespace Image

/-- The longest single argument, its end mark included, in bytes. -/
def maxArgument : Nat := 131072

/-- How much all arguments and the environment may take together, in bytes. -/
def maxTotal : Nat := 2097152

/-- How many scripts may be each other's interpreters. -/
def maxInterpreters : Nat := 5

/-- How much of the first line of a script counts, in bytes. -/
def maxFirstLine : Nat := 255

/-- How many bytes a text takes among the arguments, without and with the reference to it. -/
def size (text : String) : Nat := text.length + 1
def sizeWithReference (text : String) : Nat := size text + 8

/-- Whether arguments and environment entries are within the limits. -/
def fits (texts : List String) : Bool :=
  texts.all (size · ≤ maxArgument) && (texts.map sizeWithReference).foldl (· + ·) 0 ≤ maxTotal

/-- The regular file or the program to execute at a path. -/
def find (fs : FileSystem) (path : String) : Except Errno Node :=
  match fs.lookup (Text.ofOctets path) with
  | .error (.os e) => .error e
  | .error _ => .error .noent
  | .ok (.program name) => .ok (.program name)
  | .ok (.file mode content) =>
    if mode &&& FileSystem.executeBits = 0 then .error .acces else .ok (.file mode content)
  | .ok _ => .error .acces

/-- The interpreter that the first line of a script names, and the argument it gives it. -/
def interpreter? (content : ByteArray) : Option (String × Option String) :=
  let line := (content.extract 0 maxFirstLine).data.toList.takeWhile (· != 10)
  match line.map Text.octet with
  | '#' :: '!' :: rest =>
    let isBlank (c : Char) : Bool := c == ' ' || c == '\t'
    let rest := (rest.dropWhile isBlank).reverse.dropWhile isBlank |>.reverse
    let name := rest.takeWhile (!isBlank ·)
    let argument := (rest.drop name.length).dropWhile isBlank
    if name.isEmpty then none
    else some (String.ofList name, if argument.isEmpty then none else some (String.ofList argument))
  | _ => none

/-- Follows interpreters to a program of the system. The fuel is their number at most. -/
def resolve (fs : FileSystem) (fuel : Nat) (path : String) (arguments : List String) :
    Except Errno Image :=
  match fuel with
  | 0 => .error .loop
  | fuel + 1 =>
    match find fs path with
    | .error e => .error e
    | .ok (.program program) => .ok { program, arguments }
    | .ok (.file _ content) =>
      match interpreter? content with
      | none => .error .noexec
      | some (name, argument) =>
        resolve fs fuel name ([name] ++ argument.toList ++ [path] ++ arguments.drop 1)
    | .ok _ => .error .acces

/-- What executing a path with arguments and an environment comes to. -/
def load (fs : FileSystem) (path : String) (arguments : List String)
    (environment : List (String × String)) : Except Errno Image :=
  match find fs path with
  | .error e => .error e
  | .ok _ =>
    if fits (arguments ++ environment.map fun (key, value) => key ++ "=" ++ value) then
      resolve fs maxInterpreters path arguments
    else .error .tooBig

end Image

end BatchJob.Machine
