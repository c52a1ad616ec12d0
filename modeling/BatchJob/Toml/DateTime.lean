import BatchJob.Toml.Reader

/-!
# Dates and times

The four kinds of date-time that a document may hold: a date, a time of day, both, and both with an
offset. Seconds that are left out count as zero. `render` writes the form in which a date-time is shown as
text.
-/

namespace BatchJob.Toml

/-- A day of the Gregorian calendar. -/
structure Date where
  year : Nat
  month : Nat
  day : Nat
  deriving DecidableEq, Repr

/-- A time of day. -/
structure TimeOfDay where
  hour : Nat
  minute : Nat
  second : Nat
  nanosecond : Nat
  deriving DecidableEq, Repr

/-- The distance of a local time from universal time. -/
inductive UtcOffset
  | utc
  /-- The local time is ahead by so many minutes. -/
  | ahead (minutes : Int)
  deriving DecidableEq, Repr

/-- A date, a time of day, or both; an offset goes with both only. -/
structure DateTime where
  date : Option Date
  time : Option TimeOfDay
  offset : Option UtcOffset
  deriving DecidableEq, Repr

namespace Date

/-- Whether a year has a 29th of February. -/
def isLeapYear (year : Nat) : Bool :=
  (year % 4 == 0 && year % 100 != 0) || year % 400 == 0

/-- The number of days in a month. -/
def daysInMonth (year month : Nat) : Nat :=
  if month == 2 then (if isLeapYear year then 29 else 28)
  else if [4, 6, 9, 11].contains month then 30
  else 31

/-- Whether the calendar has this day. -/
def isValid (d : Date) : Bool :=
  1 ≤ d.month && d.month ≤ 12 && 1 ≤ d.day && d.day ≤ daysInMonth d.year d.month

end Date

namespace DateTime

open Reader

/-- The number that decimal digits stand for. -/
def decimal (digits : List Char) : Nat :=
  digits.foldl (fun n c => n * 10 + (c.toNat - '0'.toNat)) 0

/-- A number of exactly `n` digits. -/
def fixed : Nat → Reader (List Char)
  | 0 => pure []
  | n + 1 => do
    let c ← char
    guard c.isDigit
    return c :: (← fixed n)

/-- A day written as year, month and day. -/
def readDate : Reader Date := do
  let year ← fixed 4
  expect "-"
  let month ← fixed 2
  expect "-"
  let day ← fixed 2
  let date : Date := ⟨decimal year, decimal month, decimal day⟩
  guard date.isValid
  return date

/-- The fraction of a second, of which nine digits count. -/
def readFraction : Reader Nat := do
  if ← accept "." then
    let digits ← takeWhile Char.isDigit
    guard !digits.isEmpty
    return decimal ((digits ++ List.replicate 9 '0').take 9)
  else return 0

/-- A time of day written as hour, minute and, if it goes on, second. -/
def readTime : Reader TimeOfDay := do
  let hour := decimal (← fixed 2)
  expect ":"
  let minute := decimal (← fixed 2)
  guard (hour ≤ 23 && minute ≤ 59)
  if ← accept ":" then
    let second := decimal (← fixed 2)
    guard (second ≤ 60)
    return ⟨hour, minute, second, ← readFraction⟩
  else return ⟨hour, minute, 0, 0⟩

/-- An offset, if there is one. -/
def readOffset : Reader (Option UtcOffset) := do
  let read (sign : Int) : Reader (Option UtcOffset) := do
    let hours := decimal (← fixed 2)
    expect ":"
    let minutes := decimal (← fixed 2)
    guard (hours ≤ 23 && minutes ≤ 59)
    return some (.ahead (sign * (60 * hours + minutes : Nat)))
  if ← accept "Z" then return some .utc
  else if ← accept "z" then return some .utc
  else if ← accept "+" then read 1
  else if ← accept "-" then read (-1)
  else return none

/-- A date, with a time and an offset after it if it goes on. -/
def readDated : Reader DateTime := do
  let date ← readDate
  match ← peek with
  | none => return ⟨some date, none, none⟩
  | some _ =>
    let separator ← char
    guard (separator == 'T' || separator == 't' || separator == ' ')
    let time ← readTime
    return ⟨some date, some time, ← readOffset⟩

/-- The date-time that a word stands for, if it is one. -/
def ofWord? (word : List Char) : Option DateTime :=
  match readDated.runAll word with
  | some dateTime => some dateTime
  | none => (readTime.runAll word).map fun time => ⟨none, some time, none⟩

/-- A number with zeros in front to the width given. -/
def padded (width n : Nat) : String :=
  let digits := toString n
  String.ofList (List.replicate (width - digits.length) '0') ++ digits

/-- The text of a day. -/
def renderDate (d : Date) : String :=
  padded 4 d.year ++ "-" ++ padded 2 d.month ++ "-" ++ padded 2 d.day

/-- The text of a time of day, with the fraction as short as it can be. -/
def renderTime (t : TimeOfDay) : String :=
  let fraction := (padded 9 t.nanosecond).toList.reverse.dropWhile (· == '0')
  padded 2 t.hour ++ ":" ++ padded 2 t.minute ++ ":" ++ padded 2 t.second ++
    (if fraction.isEmpty then "" else "." ++ String.ofList fraction.reverse)

/-- The text of an offset. -/
def renderOffset : UtcOffset → String
  | .utc => "Z"
  | .ahead minutes =>
    let size := minutes.natAbs
    (if minutes < 0 then "-" else "+") ++ padded 2 (size / 60) ++ ":" ++ padded 2 (size % 60)

/-- The text of a date-time. -/
def render (d : DateTime) : String :=
  let date := (d.date.map renderDate).getD ""
  let time := (d.time.map renderTime).getD ""
  date ++ (if d.date.isSome && d.time.isSome then "T" else "") ++ time ++
    (d.offset.map renderOffset).getD ""

end DateTime

end BatchJob.Toml
