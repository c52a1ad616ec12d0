import BatchJob.Machine.Shell.Builtin.Basic

/-!
# Commands on variables

The commands that set, mark, show and forget variables, and those that read lines and options into them.
-/

namespace BatchJob.Machine.Shell.Builtin

/-! ## Showing -/

/-- A name with its value, if it has one. -/
def splitSetting (argument : String) : String × Option String :=
  let name := argument.toList.takeWhile (· != '=')
  match argument.toList.drop name.length with
  | _ :: value => (String.ofList name, some (String.ofList value))
  | [] => (argument, none)

/-- A value between double quotes. -/
def inDoubleQuotes (value : String) : String :=
  if Quoted.needsEscapes value then Quoted.withEscapes value
  else
    let escape (c : Char) : String :=
      if c == '"' || c == '\\' || c == '$' || c == '\x60' then "\\" ++ String.singleton c else String.singleton c
    "\"" ++ String.join (value.toList.map escape) ++ "\""

/-- What a variable holds, as it is shown after a sign of equality in the extended dialect. -/
def shownContent (plain : String → String) : Content → String
  | .text value => plain value
  | .indexed items =>
    "(" ++ " ".intercalate (items.map fun (n, value) => "[" ++ toString n ++ "]=" ++ inDoubleQuotes value) ++ ")"
  | .keyed items =>
    let key (key : String) : String := if key.toList.all Quoted.isPlain then key else inDoubleQuotes key
    "(" ++ String.join (items.map fun (k, value) => "[" ++ key k ++ "]=" ++ inDoubleQuotes value ++ " ") ++ ")"

/-- A declaration that makes a variable what it is. -/
def shownDeclaration (name : String) (entry : Variable) : String :=
  let letters := markLetters entry
  "declare -" ++ (if letters.isEmpty then "-" else letters) ++ " " ++ name ++
    match entry.content with
    | some content => "=" ++ shownContent inDoubleQuotes content
    | none => ""

/-- Variables in the order of their names. -/
def sorted (bindings : List (String × Variable)) : List (String × Variable) :=
  bindings.mergeSort fun a b => a.1 ≤ b.1

/-- Shows the variables that some mark is on, after a word. -/
def showMarked (command : String) (isMarked : Variable → Bool) : Deed Unit := do
  let s ← get
  let shown := (sorted s.bindings).filter fun (_, entry) => isMarked entry
  let line (name : String) (entry : Variable) : String :=
    match s.dialect, entry.content.bind Content.text? with
    | .standard, some value => command ++ " " ++ name ++ "=" ++ Quoted.withDoubleQuotes value ++ "\n"
    | .standard, none => command ++ " " ++ name ++ "\n"
    | .extended, _ => shownDeclaration name entry ++ "\n"
  Deed.write command (String.join (shown.map fun (name, entry) => line name entry))

/-- A value as the list of all variables shows it. -/
def shownValue (s : Shell) (value : String) : String :=
  match s.dialect with
  | .standard => Quoted.withDoubleQuotes value
  | .extended => if value.isEmpty then "" else Quoted.traced value

/-- Shows all variables. -/
def showAll : Deed Unit := do
  let s ← get
  let line (name : String) (entry : Variable) : String :=
    match entry.content with
    | some content => name ++ "=" ++ shownContent (shownValue s) content ++ "\n"
    | none => ""
  Deed.write "set" (String.join ((sorted s.bindings).map fun (name, entry) => line name entry))

/-! ## Marks -/

/-- Sets a variable if there is a value, and changes its marks. -/
def declare (command : String) (change : Variable → Variable) (argument : String) : Deed Unit := do
  let (name, value) := splitSetting argument
  if !isVariableName name then
    fault command (name ++ ": bad variable name") ("\x60" ++ argument ++ "': not a valid identifier")
  match value with
  | some value => assign command name value
  | none => pure ()
  modify fun s => s.changeVariable name change

/-- Marks variables for programs to inherit. -/
def exportAll : Builtin := fun arguments => do
  let (options, names) ← takeOptions "export" (flags "fnp") arguments
  Deed.done 0
  if names.isEmpty || has 'p' options then showMarked "export" (·.isExported)
  else
    names.forM (declare "export" fun entry => { entry with isExported := !has 'n' options })

/-- Marks variables so that their values stay as they are. -/
def readonly : Builtin := fun arguments => do
  let (options, names) ← takeOptions "readonly" (flags "aAfp") arguments
  Deed.done 0
  if names.isEmpty || has 'p' options then showMarked "readonly" (·.isFixed)
  else names.forM (declare "readonly" fun entry => { entry with isFixed := true })

/-- Changes marks as option letters say. -/
def remarked (isOn : Bool) (letters : List Char) (entry : Variable) : Variable :=
  letters.foldl (fun entry letter =>
    match letter with
    | 'x' => { entry with isExported := isOn }
    | 'r' => { entry with isFixed := isOn }
    | 'i' => { entry with isInteger := isOn }
    | 'l' => { entry with letterCase := if isOn then some .lower else none }
    | 'u' => { entry with letterCase := if isOn then some .upper else none }
    | 'a' =>
      match entry.content with
      | some (.indexed _) => entry
      | content => { entry with content := some (.indexed (Content.toIndexed content)) }
    | 'A' =>
      match entry.content with
      | some (.keyed _) => entry
      | _ => { entry with content := some (.keyed []) }
    | _ => entry) entry

/-- Makes the switches local to the function that runs. -/
def keepSwitches (s : Shell) : Shell :=
  { s with keptSwitches := s.keptSwitches.orElse fun _ => some s.switches }

/-- Makes and marks variables. In a function they are local to it unless that is ruled out. -/
def declareAll (command : String) : Builtin := fun arguments => do
  let isOption (argument : String) : Bool := 1 < argument.length && (argument.startsWith "-" || argument.startsWith "+")
  let options := arguments.takeWhile fun argument => isOption argument && argument ≠ "--"
  let names := (arguments.drop options.length).dropWhile (· = "--")
  let lettersOf (sign : String) : List Char :=
    (options.filter (·.startsWith sign)).flatMap fun option => option.toList.drop 1
  let on := lettersOf "-"
  let off := lettersOf "+"
  match (on ++ off).find? fun c => !"aAfFgiIlnprtux".toList.contains c with
  | some c => badOption command c
  | none => pure ()
  Deed.done 0
  let s ← get
  if command = "local" && s.frames.isEmpty then
    fault command "not in a function" "can only be used in a function"
  if on.contains 'p' then
    if names.isEmpty then showMarked command fun _ => true
    else
      for name in names do
        match (← get).lookup? name with
        | some entry => Act.say Task.standardOutput (shownDeclaration name entry ++ "\n")
        | none => remark command (name ++ ": not found") 1
  else if on.contains 'f' || on.contains 'F' then
    for name in names do
      if (s.functions.lookup name).isNone then Deed.done 1
      else if on.contains 'F' then Act.say Task.standardOutput (name ++ "\n")
  else if names.isEmpty then
    if on.isEmpty && off.isEmpty then showAll
  else
    for argument in names do
      if command = "local" && argument = "-" then
        modify keepSwitches
        continue
      let (target, value) := splitSetting argument
      let appends := value.isSome && target.endsWith "+"
      let name := if appends then String.ofList target.toList.dropLast else target
      if !isVariableName name then
        fault command (name ++ ": bad variable name") ("\x60" ++ argument ++ "': not a valid identifier")
      if !s.frames.isEmpty && !on.contains 'g' && !s.isFixed name then
        let isNew := ((s.frames.headD []).lookup name).isNone
        modify fun s => s.keepLocal name
        if isNew && !appends then
          modify fun s => s.setVariable name { isExported := false }
      modify fun s => s.changeVariable name fun entry =>
        remarked false off (remarked true (on.filter (· != 'r')) entry)
      match value with
      | some value =>
        let now ← get
        let former := if appends then (now.value? name).getD "" else ""
        let isInteger := (now.lookup? name).any (·.isInteger)
        assign command name (if appends && isInteger then (if former.isEmpty then "0" else former) ++ "+" ++ value
          else former ++ value)
      | none => pure ()
      if on.contains 'r' then modify fun s => s.changeVariable name fun entry => { entry with isFixed := true }

/-- Makes variables local to the function that runs; they keep their values. -/
def keepLocal : Builtin := fun arguments => do
  if (← get).isExtended then declareAll "local" arguments
  else
    if (← get).frames.isEmpty then Deed.stop "local: not in a function"
    Deed.done 0
    for argument in arguments do
      let (name, value) := splitSetting argument
      if argument = "-" then modify keepSwitches
      else
        checkName "local" name
        modify fun s => s.keepLocal name
        match value with
        | some value => assign "local" name value
        | none => pure ()

/-- Forgets one item of an array. -/
def unsetItem (name key : String) : Deed Unit := do
  let index ← match (← get).content? name with
    | some (.keyed _) => pure 0
    | _ => if key = "@" || key = "*" then pure 0 else arithmetic key
  modify fun s =>
    if key = "@" || key = "*" then s.unset name
    else
      s.changeVariable name fun entry =>
        match entry.content with
        | some (.keyed items) => { entry with content := some (.keyed (items.filter (·.1 ≠ key))) }
        | some (.indexed items) =>
          let last : Int := ((items.getLast?.map Prod.fst).getD 0 : Nat)
          let n := (if index < 0 then last + 1 + index else index).toNat
          { entry with content := some (.indexed (items.filter (·.1 ≠ n))) }
        | _ => entry

/-- Forgets variables or functions. -/
def unset : Builtin := fun arguments => do
  let (options, names) ← takeOptions "unset" (flags (if (← get).isExtended then "fvn" else "fv")) arguments
  Deed.done 0
  for name in names do
    let s ← get
    let base := String.ofList (name.toList.takeWhile (· != '['))
    if has 'f' options then
      modify fun s => { s with functions := s.functions.filter (·.1 ≠ name) }
    else if s.isExtended && base ≠ name then
      unsetItem base (String.ofList ((name.toList.drop (base.length + 1)).dropLast))
    else if s.isFixed name then
      match s.dialect with
      | .standard => Deed.stop ("unset: " ++ name ++ ": is read only")
      | .extended => remark "unset" (name ++ ": cannot unset: readonly variable") 1
    else if s.isExtended then
      if (s.lookup? name).isSome || has 'v' options then modify fun s => s.unset name
      else modify fun s => { s with functions := s.functions.filter (·.1 ≠ name) }
    else
      checkName "unset" name
      modify fun s => s.unset name

/-! ## Reading -/

/-- Drops a separator at the front: the blanks around it, and one other character. -/
def afterField (separators : List Char) (text : List Marked) : List Marked :=
  let isBlank (c : Marked) : Bool := c.2 && separators.contains c.1 && c.1.isWhitespace
  match text.dropWhile isBlank with
  | (c, true) :: rest => if separators.contains c then rest.dropWhile isBlank else (c, true) :: rest
  | rest => rest

/-- The texts of the variables that a line is split for: the last one gets all that is left. The separators that
are blanks count for nothing around a text, and neither does a separator at the end of a last text that is one
field. -/
def splitLine (separators : List Char) (names : Nat) (line : List Marked) : List String :=
  let isSeparator (c : Marked) : Bool := c.2 && separators.contains c.1
  let isBlank (c : Marked) : Bool := isSeparator c && c.1.isWhitespace
  let line := line.dropWhile isBlank
  let textOf (text : List Marked) : String := String.ofList (text.map Prod.fst)
  let field := line.takeWhile (!isSeparator ·)
  let rest := afterField separators (line.drop field.length)
  match names with
  | 0 => []
  | 1 => [textOf (if rest.isEmpty then field else (line.reverse.dropWhile isBlank).reverse)]
  | n + 1 => textOf field :: splitLine separators n rest

/-- All fields of a line. The fuel is its length at most. -/
def splitAll (separators : List Char) (fuel : Nat) (line : List Marked) : List String :=
  match fuel with
  | 0 => []
  | fuel + 1 =>
    let isSeparator (c : Marked) : Bool := c.2 && separators.contains c.1
    let line := line.dropWhile fun c => isSeparator c && c.1.isWhitespace
    if line.isEmpty then []
    else
      let field := line.takeWhile (!isSeparator ·)
      String.ofList (field.map Prod.fst) :: splitAll separators fuel (afterField separators (line.drop field.length))

/-- The characters of a line without the backslashes in it, each with whether no backslash stood before it. -/
def withoutBackslashes : List Char → List Marked
  | '\\' :: '\n' :: rest => withoutBackslashes rest
  | '\\' :: c :: rest => (c, false) :: withoutBackslashes rest
  | ['\\'] => []
  | c :: rest => (c, true) :: withoutBackslashes rest
  | [] => []

/-- Whether a text, given from its end, ends in a character that no backslash stands before. -/
def endsPlainly (isRaw : Bool) (stop : Char) (text : List Char) : Bool :=
  match text with
  | c :: before => c == stop && (isRaw || (before.takeWhile (· == '\\')).length % 2 == 0)
  | [] => false

/-- Reads a line into variables. -/
def read : Builtin := fun arguments => do
  let s ← get
  let known := match s.dialect with
    | .standard => flags "r" ++ [('p', true)]
    | .extended => flags "ers" ++ "adinNptu".toList.map (·, true)
  let (options, names) ← takeOptions "read" known arguments
  if names.isEmpty && !s.isExtended then Deed.stop "read: arg count"
  names.forM (checkName "read")
  let isRaw := has 'r' options
  let stop := match options.lookup 'd' with
    | some text => (text.toList.head?).getD '\x00'
    | none => '\n'
  let count := ((options.lookup 'n').orElse fun _ => options.lookup 'N').bind String.toNat?
  let descriptor := ((options.lookup 'u').bind String.toNat?).getD Task.standardInput
  let isEnough (text : List Char) : Bool :=
    (!has 'N' options && endsPlainly isRaw stop text) || count.any (· ≤ text.length)
  let (text, found) ← if count = some 0 then pure ("", true) else Act.readUntil descriptor isEnough
  let isStopped := found && endsPlainly isRaw stop text.toList.reverse && !has 'N' options
  let line := (if isStopped then text.toList.dropLast else text.toList).filter (· != '\x00')
  let marked : List Marked := if isRaw then line.map (·, true) else withoutBackslashes line
  Deed.done (if found then 0 else 1)
  let separators := s.separators
  match options.lookup 'a' with
  | some name =>
    let values := splitAll separators (line.length + 1) marked
    modify fun s => s.changeVariable name fun entry =>
      { entry with content := some (.indexed (values.mapIdx fun i value => (i, value))) }
  | none =>
    if names.isEmpty then assign "read" "REPLY" (String.ofList (marked.map Prod.fst))
    else if has 'N' options then
      for (name, i) in names.zipIdx do
        assign "read" name (if i = 0 then String.ofList (marked.map Prod.fst) else "")
    else
      for (name, value) in names.zip (splitLine separators names.length marked) do
        assign "read" name value

/-- Reads lines into the items of an array. -/
def mapFile : Builtin := fun arguments => do
  let (options, names) ← takeOptions "mapfile" (('t', false) :: "dnOsuCc".toList.map (·, true)) arguments
  let descriptor := ((options.lookup 'u').bind String.toNat?).getD Task.standardInput
  let text := (← Act.readAll descriptor).toOption.getD ""
  let stop := match options.lookup 'd' with
    | some text => (text.toList.head?).getD '\x00'
    | none => '\n'
  let pieces := text.splitOn (String.singleton stop)
  let (whole, last) := (pieces.dropLast, pieces.getLastD "")
  let lines := whole.map (fun line => if has 't' options then line else line ++ String.singleton stop) ++
    if last.isEmpty then [] else [last]
  let lines := lines.drop (((options.lookup 's').bind String.toNat?).getD 0)
  let lines := match (options.lookup 'n').bind String.toNat? with
    | some 0 | none => lines
    | some n => lines.take n
  let origin := ((options.lookup 'O').bind String.toNat?).getD 0
  modify fun s => s.changeVariable (names.headD "MAPFILE") fun entry =>
    { entry with content := some (.indexed (lines.mapIdx fun i line => (origin + i, line))) }
  Deed.done 0

/-! ## Options of scripts -/

/-- What one step of reading options comes to. -/
structure OptionStep where
  /-- The letter of the option, or the sign for what is wrong. -/
  letter : Char
  value : Option String := none
  /-- What is said of an option that is wrong. -/
  complaint : Option String := none
  /-- The number of the next argument and how many letters of it, or of the one before it, have been read. -/
  next : Nat
  lettersRead : Nat := 0
  isOver : Bool := false

/-- Reads the next option from arguments, the first of which has the number one. -/
def nextOption (letters : List Char) (arguments : List String) (index lettersRead : Nat) : OptionStep :=
  let isSilent := letters.head? == some ':'
  let pending : List Char :=
    if 1 < index && 0 < lettersRead then ((arguments[index - 2]?).getD "").toList.drop lettersRead else []
  let step (all : List Char) (next read : Nat) : OptionStep :=
    match all with
    | [] => { letter := '?', next, isOver := true }
    | c :: rest =>
      let after := (letters.dropWhile (· != c)).drop 1
      if c = ':' || !letters.contains c then
        { letter := '?', value := if isSilent then some (String.singleton c) else none
          complaint := if isSilent then none else some (String.singleton c)
          next, lettersRead := if rest.isEmpty then 0 else read + 1 }
      else if after.head? == some ':' then
        match rest, arguments[next - 1]? with
        | _ :: _, _ => { letter := c, value := some (String.ofList rest), next }
        | [], some value => { letter := c, value := some value, next := next + 1 }
        | [], none =>
          if isSilent then { letter := ':', value := some (String.singleton c), next }
          else { letter := '?', complaint := some (String.singleton c), next, isOver := false }
      else { letter := c, value := some "", next, lettersRead := if rest.isEmpty then 0 else read + 1 }
  match pending with
  | _ :: _ => step pending index lettersRead
  | [] =>
    match (arguments[index - 1]?).map String.toList with
    | some ['-', '-'] => { letter := '?', next := index + 1, isOver := true }
    | some ('-' :: c :: rest) => step (c :: rest) (index + 1) 1
    | _ => { letter := '?', next := index, isOver := true }

/-- Reads the next option of a script. -/
def getopts : Builtin := fun arguments => do
  let s ← get
  match arguments with
  | letters :: name :: others =>
    let index := max 1 (((s.value? "OPTIND").bind String.toNat?).getD 1)
    let isPending := s.isExtended && 0 < s.lettersRead
    let step := nextOption letters.toList (if others.isEmpty then s.arguments else others)
      (if isPending then index + 1 else index) s.lettersRead
    let fromLetter := letters.toList.dropWhile fun c => some (String.singleton c) != step.complaint
    let needsValue := fromLetter[1]? == some ':'
    match step.complaint, s.dialect with
    | some letter, .standard =>
      Act.complain (if needsValue then "No arg for -" ++ letter ++ " option" else "Illegal option -" ++ letter)
    | some letter, .extended =>
      if (s.value? "OPTERR") ≠ some "0" then
        Act.complain (s.name ++ ": " ++
          (if needsValue then "option requires an argument -- " else "illegal option -- ") ++ letter)
    | none, _ => pure ()
    let isMiddle := s.isExtended && 0 < step.lettersRead
    if !(step.isOver && s.dialect = .standard) then
      match step.value with
      | some value =>
        if value.isEmpty && s.isExtended then modify (·.unset "OPTARG") else assign "getopts" "OPTARG" value
      | none => modify (·.unset "OPTARG")
    modify fun s => s.assign "OPTIND" (toString (if isMiddle then step.next - 1 else step.next))
    checkName "getopts" name
    assign "getopts" name (String.singleton step.letter)
    modify fun s => { s with lettersRead := step.lettersRead }
    Deed.done (if step.isOver then 1 else 0)
  | _ =>
    match s.dialect with
    | .standard => Deed.stop "getopts: Usage: getopts optstring var [arg...]"
    | .extended =>
      sayUsage "getopts"
      Deed.done 2

end BatchJob.Machine.Shell.Builtin
