/-!
# Failures of the operating system

The error numbers that system calls report, the two phrases each has (that of the C library and the short
one), and the failures of input and output that the other modules name as the cause of theirs.
-/

namespace BatchJob

/-- An error number of the operating system. -/
inductive Errno
  | perm | noent | srch | intr | io | nxio | tooBig | noexec | badf | child | again | nomem | acces | fault
  | busy | exist | nodev | notdir | isdir | inval | nfile | mfile | txtbsy | fbig | nospc | spipe | rofs
  | pipe | nametoolong | nosys | notempty | loop
  deriving DecidableEq, Repr

namespace Errno

/-- Every error number, in ascending order. -/
def all : List Errno :=
  [perm, noent, srch, intr, io, nxio, tooBig, noexec, badf, child, again, nomem, acces, fault, busy, exist,
    nodev, notdir, isdir, inval, nfile, mfile, txtbsy, fbig, nospc, spipe, rofs, pipe, nametoolong, nosys,
    notempty, loop]

/-- The symbolic name of an error. -/
def name : Errno → String
  | perm => "EPERM" | noent => "ENOENT" | srch => "ESRCH" | intr => "EINTR" | io => "EIO"
  | nxio => "ENXIO" | tooBig => "E2BIG" | noexec => "ENOEXEC" | badf => "EBADF" | child => "ECHILD"
  | again => "EAGAIN" | nomem => "ENOMEM" | acces => "EACCES" | fault => "EFAULT" | busy => "EBUSY"
  | exist => "EEXIST" | nodev => "ENODEV" | notdir => "ENOTDIR" | isdir => "EISDIR"
  | inval => "EINVAL" | nfile => "ENFILE" | mfile => "EMFILE" | txtbsy => "ETXTBSY"
  | fbig => "EFBIG" | nospc => "ENOSPC" | spipe => "ESPIPE" | rofs => "EROFS" | pipe => "EPIPE"
  | nametoolong => "ENAMETOOLONG" | nosys => "ENOSYS" | notempty => "ENOTEMPTY" | loop => "ELOOP"

/-- The number of an error. -/
def number : Errno → Nat
  | perm => 1 | noent => 2 | srch => 3 | intr => 4 | io => 5 | nxio => 6 | tooBig => 7 | noexec => 8
  | badf => 9 | child => 10 | again => 11 | nomem => 12 | acces => 13 | fault => 14 | busy => 16
  | exist => 17 | nodev => 19 | notdir => 20 | isdir => 21 | inval => 22 | nfile => 23 | mfile => 24
  | txtbsy => 26 | fbig => 27 | nospc => 28 | spipe => 29 | rofs => 30 | pipe => 32
  | nametoolong => 36 | nosys => 38 | notempty => 39 | loop => 40

/-- The short phrase of an error, as it stands after its name. -/
def phrase : Errno → String
  | perm => "Operation not permitted" | noent => "No such file or directory"
  | srch => "No such process" | intr => "Interrupted system call" | io => "I/O error"
  | nxio => "No such device or address" | tooBig => "Argument list too long"
  | noexec => "Exec format error" | badf => "Bad file number" | child => "No child processes"
  | again => "Try again" | nomem => "Out of memory" | acces => "Permission denied"
  | fault => "Bad address" | busy => "Device or resource busy" | exist => "File exists"
  | nodev => "No such device" | notdir => "Not a directory" | isdir => "Is a directory"
  | inval => "Invalid argument" | nfile => "File table overflow" | mfile => "Too many open files"
  | txtbsy => "Text file busy" | fbig => "File too large" | nospc => "No space left on device"
  | spipe => "Illegal seek" | rofs => "Read-only file system" | pipe => "Broken pipe"
  | nametoolong => "File name too long" | nosys => "Function not implemented"
  | notempty => "Directory not empty" | loop => "Too many symbolic links encountered"

/-- The C library's phrase for an error, where it differs from the short one. -/
def libraryPhrase : Errno → String
  | io => "Input/output error"
  | badf => "Bad file descriptor"
  | again => "Resource temporarily unavailable"
  | nomem => "Cannot allocate memory"
  | nfile => "Too many open files in system"
  | loop => "Too many levels of symbolic links"
  | e => e.phrase

/-- The text of an error that is reported by its number: its name, then the short phrase. -/
def message (e : Errno) : String :=
  e.name ++ ": " ++ e.phrase

/-- The error with a given symbolic name. -/
def ofName? (text : String) : Option Errno :=
  all.find? fun e => e.name == text

end Errno

/-- Why an operation on a file, a pipe or a program failed. -/
inductive IoError
  /-- The system call reported an error. -/
  | os (error : Errno)
  /-- A device took no byte of what was offered to it. -/
  | writeZero
  /-- Text was asked for and the bytes are not UTF-8. -/
  | invalidUtf8
  /-- A path holds a NUL character. -/
  | nulInPath
  /-- A program name, an argument or an environment value holds a NUL character. -/
  | nulInArgument
  /-- A failure that a rehearsal asked for. -/
  | scripted
  deriving DecidableEq, Repr

/-- The text of a failure. -/
def IoError.message : IoError → String
  | .os e => e.libraryPhrase ++ " (os error " ++ toString e.number ++ ")"
  | .writeZero => "write zero"
  | .invalidUtf8 => "stream did not contain valid UTF-8"
  | .nulInPath => "file name contained an unexpected NUL byte"
  | .nulInArgument => "nul byte found in provided data"
  | .scripted => "scripted failure"

/-- What a call that may have to wait comes to. -/
inductive Attempt (ε α : Type)
  /-- The call returned a value. -/
  | done (value : α)
  /-- The call returned an error. -/
  | failed (error : ε)
  /-- The call cannot return before another party acts. -/
  | blocked
  deriving DecidableEq, Repr

namespace Attempt

variable {ε δ α β : Type}

/-- Changes the value of a call that returned one. -/
def map (f : α → β) : Attempt ε α → Attempt ε β
  | done a => done (f a)
  | failed e => failed e
  | blocked => blocked

/-- Changes the error of a call that returned one. -/
def mapError (f : ε → δ) : Attempt ε α → Attempt δ α
  | done a => done a
  | failed e => failed (f e)
  | blocked => blocked

end Attempt

end BatchJob
