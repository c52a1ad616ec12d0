/-!
# Permissions

Permission bits as they are written: in octal digits, or as clauses that say whose permissions are added, taken away
or set.
-/

namespace BatchJob.Machine.Permissions

/-- A mode in octal digits. -/
def octal? (text : List Char) : Option Nat :=
  if text.isEmpty || !text.all fun c => '0' ≤ c && c ≤ '7' then none
  else some (text.foldl (fun n c => 8 * n + (c.toNat - 48)) 0)

/-- The bits of the owner, the group and others that a letter names. -/
def whoBits? : Char → Option Nat
  | 'u' => some 0o4700
  | 'g' => some 0o2070
  | 'o' => some 0o1007
  | 'a' => some 0o7777
  | _ => none

/-- The bits that a permission letter names, for everybody. -/
def permissionBits? (isDirectory : Bool) (mode : Nat) : Char → Option Nat
  | 'r' => some 0o444
  | 'w' => some 0o222
  | 'x' => some 0o111
  | 'X' => some (if isDirectory || mode &&& 0o111 != 0 then 0o111 else 0)
  | 's' => some 0o6000
  | 't' => some 0o1000
  | 'u' => some ((mode &&& 0o700) / 0o100 * 0o111)
  | 'g' => some ((mode &&& 0o070) / 0o010 * 0o111)
  | 'o' => some ((mode &&& 0o007) * 0o111)
  | _ => none

/-- The bits of a mode that stay when some are taken away. -/
def without (mode bits : Nat) : Nat :=
  mode - (mode &&& bits)

/-- Carries out the actions of a clause: signs, each with letters after it. The fuel is the length of the text at
most. -/
def act? (isDirectory : Bool) (who : Nat) (mask : Nat) (fuel mode : Nat) (text : List Char) : Option Nat :=
  match fuel, text with
  | _, [] => some mode
  | 0, _ => none
  | fuel + 1, sign :: rest =>
    if sign = '+' || sign = '-' || sign = '=' then do
      let letters := rest.takeWhile fun c => c != '+' && c != '-' && c != '='
      let bits ← letters.mapM (permissionBits? isDirectory mode)
      let whose := if who = 0 then without 0o7777 mask else who
      let bits := bits.foldl (· ||| ·) 0 &&& whose
      let mode :=
        if sign = '+' then mode ||| bits
        else if sign = '-' then without mode bits
        else without mode ((if who = 0 then 0o7777 else who) &&& 0o777) ||| bits
      act? isDirectory who mask fuel mode (rest.drop letters.length)
    else none

/-- Carries out one clause. -/
def clause? (isDirectory : Bool) (mask mode : Nat) (text : List Char) : Option Nat :=
  let who := text.takeWhile fun c => (whoBits? c).isSome
  let actions := text.drop who.length
  if actions.isEmpty then none
  else act? isDirectory ((who.filterMap whoBits?).foldl (· ||| ·) 0) mask actions.length mode actions

/-- The mode that a text makes of another one; `mask` are the bits that a clause for nobody in particular leaves
alone. -/
def changed? (isDirectory : Bool) (mask mode : Nat) (text : String) : Option Nat :=
  match octal? text.toList with
  | some mode => some (mode % 0o10000)
  | none =>
    (text.splitOn ",").foldl (fun mode clause => mode.bind fun mode => clause? isDirectory mask mode clause.toList)
      (some mode)

/-- Three bits as letters. -/
def letters (bits : Nat) (missing : String) : String :=
  (if bits &&& 4 != 0 then "r" else missing) ++ (if bits &&& 2 != 0 then "w" else missing) ++
    (if bits &&& 1 != 0 then "x" else missing)

/-- The permissions that a mode leaves, as clauses. -/
def clauses (mode : Nat) : String :=
  "u=" ++ letters (mode / 64 % 8) "" ++ ",g=" ++ letters (mode / 8 % 8) "" ++ ",o=" ++ letters (mode % 8) ""

/-- A mode in octal digits, at least so many. -/
def octalText (width mode : Nat) : String :=
  let digits := Nat.toDigits 8 mode
  String.ofList (List.replicate (width - digits.length) '0' ++ digits)

end BatchJob.Machine.Permissions
