/-!
# Signals

The 31 standard signals of the machine the job runs on, with the number and the name of each.
`ofNumber?_number` says that a signal is recovered from its number.
-/

namespace BatchJob

/-- A standard signal. -/
inductive Signal
  | hup | int | quit | ill | trap | abrt | bus | fpe | kill | usr1 | segv | usr2 | pipe | alrm | term
  | stkflt | chld | cont | stop | tstp | ttin | ttou | urg | xcpu | xfsz | vtalrm | prof | winch | io
  | pwr | sys
  deriving DecidableEq, Repr

namespace Signal

/-- The standard signals in the order of their numbers. -/
def all : List Signal :=
  [hup, int, quit, ill, trap, abrt, bus, fpe, kill, usr1, segv, usr2, pipe, alrm, term, stkflt, chld, cont,
    stop, tstp, ttin, ttou, urg, xcpu, xfsz, vtalrm, prof, winch, io, pwr, sys]

/-- The number of a signal; the first one is 1. -/
def number : Signal → Nat
  | hup => 1 | int => 2 | quit => 3 | ill => 4 | trap => 5 | abrt => 6 | bus => 7 | fpe => 8
  | kill => 9 | usr1 => 10 | segv => 11 | usr2 => 12 | pipe => 13 | alrm => 14 | term => 15
  | stkflt => 16 | chld => 17 | cont => 18 | stop => 19 | tstp => 20 | ttin => 21 | ttou => 22
  | urg => 23 | xcpu => 24 | xfsz => 25 | vtalrm => 26 | prof => 27 | winch => 28 | io => 29
  | pwr => 30 | sys => 31

/-- The name of a signal without the letters `SIG`. -/
def shortName : Signal → String
  | hup => "HUP" | int => "INT" | quit => "QUIT" | ill => "ILL" | trap => "TRAP" | abrt => "ABRT"
  | bus => "BUS" | fpe => "FPE" | kill => "KILL" | usr1 => "USR1" | segv => "SEGV" | usr2 => "USR2"
  | pipe => "PIPE" | alrm => "ALRM" | term => "TERM" | stkflt => "STKFLT" | chld => "CHLD"
  | cont => "CONT" | stop => "STOP" | tstp => "TSTP" | ttin => "TTIN" | ttou => "TTOU" | urg => "URG"
  | xcpu => "XCPU" | xfsz => "XFSZ" | vtalrm => "VTALRM" | prof => "PROF" | winch => "WINCH"
  | io => "IO" | pwr => "PWR" | sys => "SYS"

/-- The full name of a signal. -/
def name (s : Signal) : String :=
  "SIG" ++ s.shortName

/-- The standard signal with a given number. -/
def ofNumber? (n : Int) : Option Signal :=
  all.find? fun s => (s.number : Int) == n

/-- The standard signal with a given full name. -/
def ofName? (text : String) : Option Signal :=
  all.find? fun s => s.name == text

theorem ofNumber?_number (s : Signal) : ofNumber? s.number = some s := by
  cases s <;> rfl

theorem ofNumber?_eq_some_iff {n : Int} {s : Signal} : ofNumber? n = some s ↔ n = s.number := by
  constructor
  · intro h
    have hnumber : ((s.number : Int) == n) = true := List.find?_some (p := fun s : Signal => (s.number : Int) == n) h
    exact (eq_of_beq hnumber).symm
  · rintro rfl
    exact ofNumber?_number s

end Signal

end BatchJob
