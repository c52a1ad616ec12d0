import BatchJob.Machine.Shell.Arithmetic
import BatchJob.Machine.Shell.Quoted
import BatchJob.Machine.Voice
import BatchJob.Text.Decimal

/-!
# Texts that commands write

What `echo` and `printf` write for their arguments, with the escapes and formats in them.
-/

namespace BatchJob.Machine

/-- A text, and whether everything after it is to be left out. -/
structure Written where
  text : List Char := []
  isCut : Bool := false
  /-- What is wrong with the arguments. -/
  complaints : List String := []
  /-- What is wrong with the format. -/
  fault : Option String := none
  deriving DecidableEq, Repr

namespace Written

/-- A text as it stands. -/
def ofText (text : String) : Written :=
  { text := text.toList }

/-- Puts a text in front. -/
def push (text : List Char) (w : Written) : Written :=
  { w with text := text ++ w.text }

/-! ## Escapes -/

/-- The value of up to `n` octal digits at the start of a text, and the text after them. -/
def octal (n value : Nat) : List Char → Nat × List Char
  | [] => (value, [])
  | c :: rest =>
    match n with
    | 0 => (value, c :: rest)
    | n + 1 => if '0' ≤ c && c ≤ '7' then octal n (8 * value + (c.toNat - 48)) rest else (value, c :: rest)

/-- The character for a number, of which one byte counts. -/
def byte (n : Nat) : Char :=
  Char.ofNat (n % 256)

/-- The character that a letter after a backslash stands for. -/
def letter? : Char → Option Char
  | 'a' => some '\x07'
  | 'b' => some '\x08'
  | 'e' => some '\x1b'
  | 'f' => some '\x0c'
  | 'n' => some '\n'
  | 'r' => some '\r'
  | 't' => some '\t'
  | 'v' => some '\x0b'
  | '\\' => some '\\'
  | _ => none

/-- What a letter after a backslash stands for; any other character stands for itself and the backslash. -/
def escape (c : Char) : List Char :=
  match letter? c with
  | some d => [d]
  | none => ['\\', c]

/-- The value of up to `n` hexadecimal digits at the start of a text, and the text after them. -/
def hexadecimal? (n : Nat) (text : List Char) : Option (Nat × List Char) :=
  let digits := (text.take n).takeWhile fun c => (Arithmetic.digit? c).any (· < 16)
  (Arithmetic.digits? 16 digits).map (·, text.drop digits.length)

/-- The character that an escape with a hexadecimal number stands for, and the text after it; only the extended
dialect and the programs know such escapes. -/
def coded? (voice : Voice) (c : Char) (rest : List Char) : Option (List Char × List Char) :=
  if voice = .standard then none
  else
    match c with
    | 'x' => (hexadecimal? 2 rest).map fun (n, after) => ([byte n], after)
    | 'u' => (hexadecimal? 4 rest).map fun (n, after) => (Script.Reading.encoded n, after)
    | 'U' => (hexadecimal? 8 rest).map fun (n, after) => (Script.Reading.encoded n, after)
    | 'E' => if voice = .extended then some (['\x1b'], rest) else none
    | _ => none

/-- A text whose escapes are replaced: octal and hexadecimal numbers, and those of letters. The fuel is the length of
the text at most. -/
def unescape (voice : Voice) (fuel : Nat) (text : List Char) : Written :=
  match fuel with
  | 0 => {}
  | fuel + 1 =>
    match text with
    | [] => {}
    | '\\' :: 'c' :: _ => { isCut := true }
    | '\\' :: c :: rest =>
      match coded? voice c rest with
      | some (coded, rest) => (unescape voice fuel rest).push coded
      | none =>
        if c = '0' then
          let (value, rest) := octal 3 0 rest
          (unescape voice fuel rest).push [byte value]
        else if '1' ≤ c && c ≤ '7' && voice != .extended then
          let (value, rest) := octal 3 0 (c :: rest)
          (unescape voice fuel rest).push [byte value]
        else (unescape voice fuel rest).push (escape c)
    | c :: rest => (unescape voice fuel rest).push [c]

/-- A text whose escapes are replaced. -/
def ofEscaped (voice : Voice) (text : String) : Written :=
  unescape voice text.length text.toList

/-- What `echo` writes for its arguments without the options among them: whether escapes are replaced and whether the
line has an end. -/
def echo (voice : Voice) (escapes ends : Bool) (arguments : List String) : String :=
  let text := " ".intercalate arguments
  let written := if escapes then ofEscaped voice text else ofText text
  String.ofList (written.text ++ if ends && !written.isCut then ['\n'] else [])

/-- Whether an argument of `echo` is made of option letters. -/
def isEchoOption (argument : String) : Bool :=
  match argument.toList with
  | '-' :: letters => !letters.isEmpty && letters.all fun c => c == 'n' || c == 'e' || c == 'E'
  | _ => false

/-- What `echo` writes for its arguments. -/
def ofEcho (voice : Voice) (arguments : List String) : String :=
  match voice, arguments with
  | .standard, "-n" :: rest => echo voice true false rest
  | .standard, _ => echo voice true true arguments
  | _, _ =>
    let letters := (arguments.takeWhile isEchoOption).flatMap String.toList
    let escapes := ((letters.filter fun c => c == 'e' || c == 'E').getLast?).any (· == 'e')
    echo voice escapes (!letters.contains 'n') (arguments.dropWhile isEchoOption)

/-! ## Formats -/

/-- A place in a format: how an argument is written there. -/
structure Place where
  flags : List Char := []
  width : Nat := 0
  precision : Option Nat := none
  letter : Char := 's'
  /-- The text of the place in the format. -/
  source : String := ""
  deriving DecidableEq, Repr

/-- Blanks or zeros, as many as are missing from a width. -/
def padding (c : Char) (width : Nat) (text : String) : String :=
  String.ofList (List.replicate (width - text.length) c)

namespace Place

/-- A text brought to the width of its place. -/
def align (place : Place) (text : String) : String :=
  if place.flags.contains '-' then text ++ padding ' ' place.width text
  else padding ' ' place.width text ++ text

/-- The sign of a number. -/
def sign (place : Place) (isNegative : Bool) : String :=
  if isNegative then "-" else if place.flags.contains '+' then "+"
  else if place.flags.contains ' ' then " " else ""

/-- A number after its sign, brought to the width of its place with zeros or blanks. -/
def alignSigned (place : Place) (mayFill : Bool) (sign digits : String) : String :=
  if mayFill && place.flags.contains '0' && !place.flags.contains '-' then
    sign ++ padding '0' (place.width - sign.length) digits ++ digits
  else place.align (sign ++ digits)

/-- A whole number with its sign, brought to the precision and the width of its place. -/
def alignNumber (place : Place) (sign digits : String) : String :=
  let digits := if place.precision = some 0 && digits = "0" then "" else digits
  place.alignSigned place.precision.isNone sign (padding '0' (place.precision.getD 1) digits ++ digits)

/-- The digits of a number in a base. -/
def digitsIn (base : Nat) (n : Nat) : String :=
  String.ofList (Nat.toDigits base n)

/-- What a whole number is written as. -/
def number (place : Place) (n : Int) : String :=
  let unsigned := (n % UInt64.size).toNat
  let isAlternate := place.flags.contains '#'
  match place.letter with
  | 'x' => place.alignNumber (if isAlternate && unsigned ≠ 0 then "0x" else "") (digitsIn 16 unsigned)
  | 'X' => place.alignNumber (if isAlternate && unsigned ≠ 0 then "0X" else "") (digitsIn 16 unsigned).toUpper
  | 'o' =>
    let digits := digitsIn 8 unsigned
    place.alignNumber "" (if isAlternate && digits ≠ "0" then "0" ++ digits else digits)
  | 'u' => place.alignNumber "" (toString unsigned)
  | _ => place.alignNumber (place.sign (n < 0)) (toString n.natAbs)

/-- What a number with decimals is written as. -/
def decimal (place : Place) (n : Decimal) : String :=
  let style : Decimal.Style :=
    match place.letter.toLower with
    | 'f' => .fixed
    | 'e' => .scientific
    | _ => .general
  let digits := n.unsignedText style (place.precision.getD 6) (place.flags.contains '#')
  let digits := if place.letter.isUpper then digits.toUpper else digits
  place.alignSigned (n matches .quotient ..) (place.sign n.isNegative) digits

end Place

/-- What is wrong with a number in an argument. -/
inductive NumberFault
  | noNumber
  | notWhole
  | outOfRange
  deriving DecidableEq, Repr

/-- What is said of an argument that is no number. -/
def NumberFault.message (voice : Voice) (argument : String) (fault : NumberFault) : String :=
  match voice, fault with
  | .standard, .noNumber => argument ++ ": expected numeric value"
  | .standard, .notWhole => argument ++ ": not completely converted"
  | .standard, .outOfRange => argument ++ ": Numerical result out of range"
  | .extended, .noNumber | .extended, .notWhole => argument ++ ": invalid number"
  | .extended, .outOfRange => "warning: " ++ argument ++ ": Numerical result out of range"
  | .program, .noNumber => "'" ++ argument ++ "': expected a numeric value"
  | .program, .notWhole => "'" ++ argument ++ "': value not completely converted"
  | .program, .outOfRange => "'" ++ argument ++ "': Numerical result out of range"

/-- The whole number at the start of an argument, and what is wrong with the argument. -/
def numeral (isSigned : Bool) (argument : String) : Int × Option NumberFault :=
  let text := Arithmetic.skipBlanks argument.toList
  match argument.toList with
  | [] => (0, none)
  | quote :: rest =>
    if quote = '\'' || quote = '"' then (((rest.head?.map Char.toNat).getD 0 : Nat), none)
    else
      let (isNegative, digits) := match text with
        | '-' :: digits => (true, digits)
        | '+' :: digits => (false, digits)
        | digits => (false, digits)
      match Arithmetic.takeNatural? digits with
      | none => (0, some .noNumber)
      | some (n, rest) =>
        let greatest := if isSigned then Arithmetic.greatest else UInt64.size - 1
        let limit := if isSigned && isNegative then greatest + 1 else greatest
        let fault := if !rest.isEmpty then some .notWhole else if limit < n then some .outOfRange else none
        (if isNegative && !(limit < n && !isSigned) then -(min n limit : Nat) else (min n limit : Nat), fault)

/-- The number with decimals at the start of an argument, and what is wrong with the argument. -/
def decimalNumeral (voice : Voice) (argument : String) : Decimal × Option NumberFault :=
  match argument.toList with
  | [] => (.quotient false 0 1, none)
  | quote :: rest =>
    if quote = '\'' || quote = '"' then (.quotient false ((rest.head?.map Char.toNat).getD 0) 1, none)
    else
      match Decimal.take? argument.toList with
      | none => (.quotient false 0 1, some .noNumber)
      | some (n, rest) =>
        (n.nearest (if voice = .standard then 53 else 64), if rest.isEmpty then none else some .notWhole)

/-- A number at the start of a format, which a star takes from the arguments. -/
def takeCount (format : List Char) (arguments : List String) : Option Int × List Char × List String :=
  match format with
  | '*' :: rest => (some (numeral true (arguments.headD "")).1, rest, arguments.drop 1)
  | _ =>
    let digits := format.takeWhile Char.isDigit
    ((Arithmetic.digits? 10 digits).map Int.ofNat, format.drop digits.length, arguments)

/-- The place after a percent sign, the format after it, and the arguments that are left; no place where the format
ends in it. -/
def takePlace (voice : Voice) (format : List Char) (arguments : List String) :
    Option Place × List Char × List String :=
  let isFlag (c : Char) : Bool := "-+ 0#".toList.contains c || (c == '\'' && voice != .standard)
  let flags := format.takeWhile isFlag
  let (width, rest, arguments) := takeCount (format.drop flags.length) arguments
  let (precision, rest, arguments) :=
    match rest with
    | '.' :: rest =>
      let (precision, rest, arguments) := takeCount rest arguments
      (match precision with
        | none => some 0
        | some n => if n < 0 then none else some n.toNat, rest, arguments)
    | _ => (none, rest, arguments)
  let flags := if width.any (· < 0) then '-' :: flags else flags
  let modifiers := rest.takeWhile fun c => voice != .standard && "hlLjzt".toList.contains c
  match rest.drop modifiers.length with
  | [] => (none, [], arguments)
  | letter :: after =>
    let source := "%" ++ String.ofList (format.take (format.length - after.length))
    (some { flags, width := (width.getD 0).natAbs, precision, letter, source }, after, arguments)

/-- What stands for an argument in a place. -/
def ofArgument (voice : Voice) (place : Place) (argument : Option String) : Written :=
  let text := argument.getD ""
  let shortened : String :=
    match place.precision with
    | some n => String.ofList (text.toList.take n)
    | none => text
  let complaints (fault : Option NumberFault) : List String := (fault.map (·.message voice text)).toList
  match place.letter with
  | 'd' | 'i' =>
    let (n, fault) := numeral true text
    { ofText (place.number n) with complaints := complaints fault }
  | 'o' | 'u' | 'x' | 'X' =>
    let (n, fault) := numeral false text
    { ofText (place.number n) with complaints := complaints fault }
  | 'e' | 'E' | 'f' | 'F' | 'g' | 'G' =>
    let (n, fault) := decimalNumeral voice text
    { ofText (place.decimal n) with complaints := complaints fault }
  | 'c' => ofText (place.align (String.ofList (if text.isEmpty then ['\x00'] else text.toList.take 1)))
  | 'b' =>
    let written := ofEscaped voice text
    let inner := String.ofList written.text
    let inner := match place.precision with
      | some n => String.ofList (inner.toList.take n)
      | none => inner
    { written with text := (place.align inner).toList }
  | 'q' =>
    ofText (place.align (if voice = .program then
      (if text.isEmpty then "''" else if text.toList.all Shell.Quoted.isPlain then text else Shell.Quoted.reusable text)
      else Shell.Quoted.backslashed text))
  | _ => ofText (place.align shortened)

/-- What is said of a place with an unknown letter, or with none. -/
def placeFault (voice : Voice) (place : Option Place) : String :=
  match voice, place with
  | .standard, some place => place.source ++ ": invalid directive"
  | .extended, some place => "\x60" ++ String.singleton place.letter ++ "': invalid format character"
  | .program, some place => place.source ++ ": invalid conversion specification"
  | .standard, none => "missing format character"
  | .extended, none => "\x60%': missing format character"
  | .program, none => "%: invalid conversion specification"

/-- Whether a letter names a way of writing an argument. -/
def isKnown (voice : Voice) (c : Char) : Bool :=
  "diouxXeEfFgGcbs".toList.contains c || (c == 'q' && voice != .standard)

/-- One pass over a format: what is written and the arguments that are left. The fuel is the length of the format at
most. -/
def formatOnce (voice : Voice) (fuel : Nat) (format : List Char) (arguments : List String) :
    Written × List String :=
  match fuel with
  | 0 => ({}, arguments)
  | fuel + 1 =>
    let goOn (front : Written) (rest : List Char) (arguments : List String) : Written × List String :=
      let (written, left) := formatOnce voice fuel rest arguments
      ({ written with
        text := front.text ++ written.text
        complaints := front.complaints ++ written.complaints }, left)
    match format with
    | [] => ({}, arguments)
    | '%' :: '%' :: rest => goOn { text := ['%'] } rest arguments
    | '%' :: rest =>
      match takePlace voice rest arguments with
      | (none, _, arguments) => ({ fault := some (placeFault voice none) }, arguments)
      | (some place, rest, arguments) =>
        if !isKnown voice place.letter then ({ fault := some (placeFault voice (some place)) }, arguments)
        else
          let value := ofArgument voice place arguments.head?
          if value.isCut then (value, []) else goOn value rest (arguments.drop 1)
    | '\\' :: 'c' :: rest =>
      if voice = .program then ({ isCut := true }, []) else goOn { text := ['\\', 'c'] } rest arguments
    | '\\' :: c :: rest =>
      match coded? voice c rest with
      | some (coded, rest) => goOn { text := coded } rest arguments
      | none =>
        if '0' ≤ c && c ≤ '7' then
          let (value, rest) := octal 3 0 (c :: rest)
          goOn { text := [byte value] } rest arguments
        else if c = '"' && voice ≠ .standard then goOn { text := ['"'] } rest arguments
        else goOn { text := escape c } rest arguments
    | c :: rest => goOn { text := [c] } rest arguments

/-- What is written for a format, which is used again as long as it takes arguments and some are left. The fuel is
the number of passes at most. -/
def formatAll (voice : Voice) (fuel : Nat) (format : List Char) (arguments : List String) :
    Written × List String :=
  match fuel with
  | 0 => ({}, arguments)
  | fuel + 1 =>
    let (written, left) := formatOnce voice format.length format arguments
    if written.isCut || written.fault.isSome || left.isEmpty || left.length = arguments.length then (written, left)
    else
      let (others, left) := formatAll voice fuel format left
      ({ others with
        text := written.text ++ others.text
        complaints := written.complaints ++ others.complaints }, left)

/-- What `printf` writes for a format and its arguments, and the arguments that it has no use for. -/
def printf (voice : Voice) (format : String) (arguments : List String) : Written × List String :=
  formatAll voice (arguments.length + 1) format.toList arguments

end Written

end BatchJob.Machine
