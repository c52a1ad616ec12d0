import BatchJob.Machine.Shell.Announcement
import BatchJob.Machine.Shell.Arithmetic
import BatchJob.Machine.Shell.Pattern
import BatchJob.Machine.Shell.Quoted

/-!
# What words stand for

What the words of a script stand for when it runs. Quotes are taken away, parameters are replaced by their values,
scripts by what they write and arithmetic by its value; a value that stands outside quotes is split into fields, and
a field that is a pattern stands for the paths it finds.
-/

namespace BatchJob.Machine.Shell

/-- A part of a word whose parameters have been replaced. -/
inductive Glyph
  /-- A character in quotes, which stands for itself. -/
  | kept (c : Char)
  /-- A character outside quotes, which may belong to a pattern. -/
  | bare (c : Char)
  /-- A character of a value outside quotes, which may belong to a pattern or end the field. -/
  | loose (c : Char)
  /-- A pair of quotes: there is a field here, be it empty. -/
  | quotes
  /-- The end of a field. -/
  | fieldEnd
  deriving DecidableEq, Repr

namespace Glyph

/-- A value, in quotes or outside of them. -/
def ofValue (isQuoted : Bool) (value : String) : List Glyph :=
  value.toList.map (if isQuoted then kept else loose)

/-- The characters of glyphs that are not split; `joint` stands between their fields. -/
def textOf (joint : String) (glyphs : List Glyph) : String :=
  String.ofList (glyphs.flatMap fun
    | .kept c | .bare c | .loose c => [c]
    | .quotes => []
    | .fieldEnd => joint.toList)

/-- The characters of glyphs that are not split, each with whether it may belong to a pattern. -/
def markedOf (glyphs : List Glyph) : List Marked :=
  glyphs.filterMap fun
    | .kept c => some (c, false)
    | .bare c | .loose c => some (c, true)
    | .quotes => none
    | .fieldEnd => some (' ', false)

/-! ## Fields -/

/-- Whether a glyph is a separator that is a blank. -/
def isBlankSeparator (separators : List Char) : Glyph → Bool
  | .loose c => separators.contains c && c.isWhitespace
  | _ => false

/-- Drops the blanks before another separator that is near the front, and that separator. -/
def dropSeparator (separators : List Char) (glyphs : List Glyph) : List Glyph :=
  match glyphs.dropWhile (isBlankSeparator separators) with
  | .loose c :: rest => if separators.contains c then rest else glyphs
  | _ => glyphs

/-- Splits glyphs into fields at some separators; the first field has begun if `current` is there. Blanks around a
separator belong to it. The fuel is the number of glyphs at most. -/
def split (separators : List Char) (fuel : Nat) (current : Option (List Marked)) (glyphs : List Glyph) :
    List (List Marked) :=
  match fuel, glyphs with
  | 0, _ | _, [] => (current.map List.reverse).toList
  | fuel + 1, .kept c :: rest => split separators fuel (some ((c, false) :: current.getD [])) rest
  | fuel + 1, .bare c :: rest => split separators fuel (some ((c, true) :: current.getD [])) rest
  | fuel + 1, .quotes :: rest => split separators fuel (some (current.getD [])) rest
  | fuel + 1, .fieldEnd :: rest => (current.map List.reverse).toList ++ split separators fuel none rest
  | fuel + 1, .loose c :: rest =>
    if !separators.contains c then split separators fuel (some ((c, true) :: current.getD [])) rest
    else if !c.isWhitespace then (current.getD []).reverse :: split separators fuel none rest
    else
      match current with
      | none => split separators fuel none rest
      | some field => field.reverse :: split separators fuel none (dropSeparator separators rest)

end Glyph

/-! ## Values of parameters -/

/-- What a parameter stands for: one text, or several. -/
inductive Selected
  | one (value : Option String)
  /-- Several texts; whether they are one text in quotes. -/
  | several (isJoined : Bool) (values : List String)
  deriving DecidableEq, Repr

namespace Selected

/-- The text that is looked at to see whether there is one. In the standard dialect the positions are always set. -/
def text? (s : Shell) : Selected → Option String
  | .one value => value
  | .several _ values =>
    if values.isEmpty && s.isExtended then none else some (s.positionJoint.intercalate values)

/-- Changes every text. -/
def map (change : String → String) : Selected → Selected
  | .one value => .one (value.map change)
  | .several isJoined values => .several isJoined (values.map change)

/-- The glyphs of what a parameter stands for. -/
def glyphs (s : Shell) (isQuoted : Bool) : Selected → List Glyph
  | .one value => Glyph.ofValue isQuoted (value.getD "")
  | .several isJoined values =>
    if !isQuoted then [Glyph.fieldEnd].intercalate (values.map (Glyph.ofValue false))
    else if isJoined then Glyph.ofValue true (s.positionJoint.intercalate values)
    else [Glyph.fieldEnd].intercalate (values.map fun value => .quotes :: Glyph.ofValue true value)

end Selected

/-- What stands between several texts where they are not split. -/
def fieldJoint (s : Shell) : String :=
  if s.isExtended then " " else s.positionJoint

/-- Whether a name is that of a variable. -/
def isVariableName (name : String) : Bool :=
  Script.Reading.isName name

/-- The value of arithmetic whose parameters have been replaced. -/
def arithmetic (text : String) : Deed Int := do
  let s ← get
  match Arithmetic.valueOf s text.toList with
  | .ok (value, s) =>
    set s
    return value
  | .error fault =>
    Deed.complain (Arithmetic.complaint s.dialect text.toList fault)
    match s.dialect, fault with
    | .standard, _ =>
      Deed.done 2
      Deed.abandon
    | .extended, .unset _ =>
      Deed.done (if s.isInner then 1 else 127)
      Deed.leave
    | .extended, _ =>
      Deed.done 1
      Deed.abandon

/-- The items of an array that some keys are those of, in the order in which they are kept. -/
def itemText? (content : Option Content) (key : String) (index : Int) : Option String :=
  match content with
  | some (.keyed items) => items.lookup key
  | content =>
    let items := Content.toIndexed content
    if index < 0 then
      let last := (items.getLast?.map Prod.fst).getD 0
      if (last : Int) + 1 + index < 0 then none else items.lookup ((last : Int) + 1 + index).toNat
    else items.lookup index.toNat

/-- Looks a parameter up, or one of its items. -/
def select (name : String) (key : Option String) : Deed Selected := do
  let s ← get
  match name, key with
  | "@", _ => return .several false s.arguments
  | "*", _ => return .several true s.arguments
  | _, none =>
    match s.content? name with
    | some content => return .one content.text?
    | none => return .one none
  | _, some "@" => return .several false (((s.content? name).map Content.values).getD [])
  | _, some "*" => return .several true (((s.content? name).map Content.values).getD [])
  | _, some key =>
    let content := s.content? name
    match content with
    | some (.keyed _) => return .one (itemText? content key 0)
    | _ =>
      let index ← arithmetic key
      return .one (itemText? content key index)

/-- The text of a parameter for messages. -/
def label (name : String) (key : Option String) : String :=
  match key with
  | some key => name ++ "[" ++ key ++ "]"
  | none => name

/-- Fails because a parameter is not set. -/
def refuseUnset {α : Type} (name what : String) : Deed α := do
  let s ← get
  match s.dialect with
  | .standard => Deed.refuse (name ++ ": " ++ what)
  | .extended =>
    Deed.complain (name ++ ": " ++ what)
    Deed.done (if s.isInner then 1 else 127)
    Deed.leave

/-- Sets a variable for good or for bad: one whose value stays as it is ends the shell. -/
def assignOrRefuse (name value : String) : Deed Unit := do
  let s ← get
  if s.isFixed name then
    match s.dialect with
    | .standard => Deed.refuse (name ++ ": is read only")
    | .extended => Deed.refuse (name ++ ": readonly variable") 1
  else
    let entry := (s.lookup? name).getD {}
    let value ← if entry.isInteger then pure (toString (← arithmetic value)) else pure (recased entry value)
    modify fun s => s.assign name value

/-- A part of a list from a position on: all of it, or up to a number of texts. -/
def sliced (values : List String) (start : Int) (length : Option Int) : List String :=
  let size : Int := values.length
  let start := if start < 0 then size + start else start
  if start < 0 || size < start then []
  else
    let rest := values.drop start.toNat
    match length with
    | none => rest
    | some n => if n < 0 then rest.take (size - start + n).toNat else rest.take n.toNat

/-- A text with the letters that a pattern stands for in upper or lower case. -/
def recasedWhere (toUpper everywhere : Bool) (pattern : Option Pattern) (text : List Char) : List Char :=
  let change (c : Char) : Char :=
    if pattern.all fun pattern => pattern.accepts [c] then (if toUpper then c.toUpper else c.toLower) else c
  match text with
  | [] => []
  | c :: rest => if everywhere then (c :: rest).map change else change c :: rest

/-- A value in the way that a letter names. -/
def transformed (letter : Char) (value : String) : String :=
  match letter, value.toList with
  | 'Q', _ | 'K', _ | 'k', _ => Quoted.reusable value
  | 'U', _ => value.map Char.toUpper
  | 'L', _ => value.map Char.toLower
  | 'u', c :: rest => String.ofList (c.toUpper :: rest)
  | 'E', text => ((Script.Reading.takeEscaped (text.length + 2) (text ++ ['\''])).map fun (inner, _) =>
      String.ofList inner).getD value
  | _, _ => value

/-- The letters for the marks of a variable. -/
def markLetters (entry : Variable) : String :=
  (match entry.content with
    | some (.indexed _) => "a"
    | some (.keyed _) => "A"
    | _ => "") ++ (if entry.isInteger then "i" else "") ++
  (match entry.letterCase with
    | some .lower => "l"
    | some .upper => "u"
    | none => "") ++ (if entry.isFixed then "r" else "") ++ (if entry.isExported then "x" else "")

/-! ## Replacing -/

/-- The home directories of the accounts of the system. -/
def homeOf? (s : Shell) : List Char → Option String
  | [] => s.value? "HOME"
  | ['+'] => if s.isExtended then s.value? "PWD" else none
  | ['-'] => if s.isExtended then s.value? "OLDPWD" else none
  | name =>
    [("root", "/root"), ("daemon", "/usr/sbin"), ("bin", "/bin"), ("sys", "/dev"), ("nobody", "/nonexistent"),
      ("www-data", "/var/www"), ("mail", "/var/mail"), ("man", "/var/cache/man"), ("games", "/usr/games")].lookup
      (String.ofList name)

/-- The start of a word in which tildes stand for home directories: at the front, and in settings after each colon;
whether the word ends there decides whether a name may do so. -/
def tildeReplaced (s : Shell) (isSetting isWhole : Bool) (text : List Char) : Word :=
  let isEnd (c : Char) : Bool := c == '/' || (isSetting && c == ':')
  let replaced (text : List Char) : Option Word :=
    match text with
    | '~' :: rest =>
      let name := rest.takeWhile (!isEnd ·)
      if name.length = rest.length && !isWhole then none
      else
        (homeOf? s name).map fun home => [.quotes, .text true home.toList, .text false (rest.drop name.length)]
    | _ => none
  let rec parts (fuel : Nat) (text : List Char) : Word :=
    match fuel with
    | 0 => [.text false text]
    | fuel + 1 =>
      let front := (replaced text).getD [.text false text]
      if !isSetting then front
      else
        match front.reverse with
        | .text false last :: before =>
          let head := last.takeWhile (· != ':')
          match last.drop head.length with
          | ':' :: '~' :: rest => before.reverse ++ .text false (head ++ [':']) :: parts fuel ('~' :: rest)
          | ':' :: rest => before.reverse ++ .text false (head ++ [':']) :: parts fuel rest
          | _ => front
        | _ => front
  if text.head? == some '~' || isSetting then parts (text.length + 1) text else [.text false text]

/-- A word in which tildes stand for home directories. -/
def replaceTilde (s : Shell) (isSetting : Bool) (word : Word) : Word :=
  match word with
  | .text false text :: rest => tildeReplaced s isSetting rest.isEmpty text ++ rest
  | _ => word

/-- What a piece that says something literally stands for. Outside quotes it may be split where `isLoose` says so. -/
def literal (isLoose : Bool) : Piece → List Glyph
  | .text isQuoted text => text.map (if isQuoted then Glyph.kept else if isLoose then .loose else .bare)
  | .quotes => [.quotes]
  | _ => []

/-- What a script has written, without the line ends at its end. -/
def outputText (bytes : Bytes) : String :=
  Text.ofBytes ((bytes.reverse.dropWhile (· == 10)).reverse.filter (· != 0))

/-- The first number for a descriptor that is put aside, and the last one. -/
def firstAside : Nat := 10
def lastAside : Nat := 40

/-- The greatest number for a descriptor that stands behind a path in a word. -/
def lastChannel : Nat := 63

/-- Opens both ends of a new pipe, the one for reading under the first number. -/
def connect (reader writer : Nat) : Deed Unit := fun _ s k =>
  .connect reader writer (k ((), s))

/-- How a shell starts that runs a script for what the script writes. -/
def forOutput (s : Shell) : Shell :=
  match s.dialect with
  | .standard => { s with isTested := false }
  | .extended =>
    let s := { s with depth := s.depth + 1 }
    if s.isOn "inherit_errexit" then s else s.turn "errexit" false

/-- Runs a script as a process of its own and gives what it writes. -/
def outputOf (script : Script) : Deed String := do
  if script matches .nothing then
    modify fun s => { s with substituted := 0 }
    return ""
  let reader := firstAside + (← get).aside
  let writer := reader + 1
  connect reader writer
  let pid ← Deed.fork do
    discard (Act.duplicate writer Task.standardOutput)
    Act.close reader
    Act.close writer
    modify forOutput
    Deed.run script
  Act.close writer
  let text ← Act.readAll reader
  Act.close reader
  let status ← Deed.await pid
  if !(← get).isExtended then Deed.announce pid status
  let code := statusOf status
  modify fun s => { s with status := if s.isExtended then code else s.status, substituted := code }
  return outputText (Text.toBytes (text.toOption.getD ""))

/-- Runs a script at the other end of a pipe, and gives the path of this end. -/
def channelOf (isInput : Bool) (script : Script) : Deed String := do
  let aside := (← get).aside
  let number := lastChannel - aside
  let reader := if isInput then number else firstAside + aside
  let writer := if isInput then firstAside + aside else number
  connect reader writer
  discard <| Deed.fork do
    if isInput then discard (Act.duplicate writer Task.standardOutput)
    else discard (Act.duplicate reader Task.standardInput)
    Act.close reader
    Act.close writer
    Deed.run script
  Act.close (if isInput then writer else reader)
  modify fun s => { s with aside := s.aside + 1 }
  return "/dev/fd/" ++ toString number

mutual

/-- What a piece stands for. Outside quotes, what a script says literally may be split where `isLoose` says so. -/
def expandPiece (isLoose : Bool) : Piece → Deed (List Glyph)
  | .text isQuoted text => return literal isLoose (.text isQuoted text)
  | .quotes => return literal isLoose .quotes
  | .output isQuoted script => do return Glyph.ofValue isQuoted (← outputOf script)
  | .value isQuoted expression => do
    let text := Glyph.textOf " " (← expandPieces false false expression)
    return Glyph.ofValue isQuoted (toString (← arithmetic text))
  | .channel isInput script => do return Glyph.ofValue true (← channelOf isInput script)
  | .items _ => return []
  | .parameter isQuoted name none use => expandUse isQuoted name none use
  | .parameter isQuoted name (some subscript) use => do
    let key := Glyph.textOf " " (← expandPieces false false subscript)
    expandUse isQuoted name (some key) use

/-- What pieces stand for; a tilde at their start may stand for a home directory. -/
def expandPieces (isLoose isHomed : Bool) : List Piece → Deed (List Glyph)
  | [] => return []
  | .quotes :: .parameter true "@" none .plain :: .quotes :: rest => do
    let own := Selected.glyphs (← get) true (.several false (← get).arguments)
    return own ++ (← expandPieces isLoose false rest)
  | .quotes :: .parameter true name (some [.text isQuoted ['@']]) .plain :: .quotes :: rest => do
    let own := Selected.glyphs (← get) true (← select name (some (if isQuoted then "@" else "@")))
    return own ++ (← expandPieces isLoose false rest)
  | .quotes :: .parameter true name key use :: .quotes :: rest => do
    let own ← expandPiece isLoose (.parameter true name key use)
    let s ← get
    let isNothing :=
      if use matches .fallback .. then false
      else if name = "@" then s.arguments.isEmpty
      else (key matches some [.text _ ['@']]) && ((s.content? name).map Content.values).all List.isEmpty
    let quotes := if own.isEmpty && isNothing && s.isExtended then [] else [Glyph.quotes]
    return quotes ++ own ++ (← expandPieces isLoose false rest)
  | .text false text :: rest => do
    let s ← get
    let front := if isHomed then tildeReplaced s false rest.isEmpty text else [.text false text]
    return front.flatMap (literal isLoose) ++ (← expandPieces isLoose false rest)
  | piece :: rest => do
    let own ← expandPiece isLoose piece
    return own ++ (← expandPieces isLoose false rest)

/-- What is made of the value of a parameter. -/
def expandUse (isQuoted : Bool) (name : String) (key : Option String) : Use → Deed (List Glyph)
  | .plain => do
    let selected ← select name key
    let s ← get
    match selected with
    | .one none =>
      if s.isOn "nounset" then
        refuseUnset (label name key) (if s.isExtended then "unbound variable" else "parameter not set")
      else return []
    | selected => return selected.glyphs s isQuoted
  | .length => do
    let selected ← select name key
    let s ← get
    match selected with
    | .one none =>
      if s.isOn "nounset" then
        refuseUnset (label name key) (if s.isExtended then "unbound variable" else "parameter not set")
      else return Glyph.ofValue isQuoted "0"
    | .one (some value) => return Glyph.ofValue isQuoted (toString value.length)
    | .several isJoined values =>
      let count := if s.isExtended then values.length
        else ((if isJoined then s.positionJoint else " ").intercalate values).length
      return Glyph.ofValue isQuoted (toString count)
  | .fallback emptyIsNone keeps word => do
    let selected ← select name key
    if isThere (← get) emptyIsNone selected then return selected.glyphs (← get) isQuoted
    else if keeps then
      if !isVariableName name then
        match (← get).dialect with
        | .standard => Deed.refuse (name ++ ": bad variable name")
        | .extended => Deed.refuse ("$" ++ name ++ ": cannot assign in this way") 1
      let text ← do
        let glyphs ← expandPieces false (!isQuoted) word
        pure (Glyph.textOf (fieldJoint (← get)) glyphs)
      assignOrRefuse name text
      return Glyph.ofValue isQuoted text
    else expandPieces (!isQuoted) (!isQuoted) word
  | .replacement emptyIsNone word => do
    let selected ← select name key
    let s ← get
    if isThere s emptyIsNone selected then expandPieces (!isQuoted) (!isQuoted) word else return []
  | .requirement emptyIsNone word => do
    let selected ← select name key
    if isThere (← get) emptyIsNone selected then return selected.glyphs (← get) isQuoted
    else
      let s ← get
      let usual :=
        match s.isExtended, emptyIsNone with
        | true, true => "parameter null or not set"
        | true, false => "parameter not set"
        | false, true => "parameter not set or null"
        | false, false => "parameter not set"
      let why ← if word.isEmpty then pure usual else do
          let glyphs ← expandPieces false (!isQuoted) word
          pure (Glyph.textOf (fieldJoint s) glyphs)
      refuseUnset (label name key) why
  | .drop atEnd isLongest word => do
    let selected ← select name key
    checkSet name key selected
    let glyphs ← expandPieces false true word
    let pattern := Pattern.ofMarked (Glyph.markedOf glyphs)
    let change (text : String) : String :=
      String.ofList (if atEnd then pattern.dropEnd isLongest text.toList else pattern.dropStart isLongest text.toList)
    let s ← get
    let changed := if s.isExtended then selected.map change
      else match selected with
        | .several isJoined values =>
          .one (some (change ((if isJoined then s.positionJoint else " ").intercalate values)))
        | one => one.map change
    return changed.glyphs s isQuoted
  | .slice start length => do
    let selected ← select name key
    checkSet name key selected
    let first ← do
      let glyphs ← expandPieces false false start
      arithmetic (Glyph.textOf " " glyphs)
    let count ← match length with
      | none => pure none
      | some length => do
        let glyphs ← expandPieces false false length
        pure (some (← arithmetic (Glyph.textOf " " glyphs)))
    let s ← get
    let changed : Selected :=
      match selected with
      | .one value =>
        .one (value.map fun value =>
          String.join (sliced (value.toList.map String.singleton) first count))
      | .several isJoined values =>
        let values := if key.isNone then s.name :: values else values
        .several isJoined (sliced values first count)
    return changed.glyphs s isQuoted
  | .substitute anchor source target => do
    let selected ← select name key
    checkSet name key selected
    let pattern := Pattern.ofMarked (Glyph.markedOf (← expandPieces false false source))
    let replacement ← do
      let glyphs ← expandPieces false false target
      pure (Glyph.textOf " " glyphs).toList
    let isEmpty := source.isEmpty
    let change (text : String) : String :=
      let text := text.toList
      String.ofList <|
        match anchor with
        | .anywhere => if isEmpty then text else pattern.replace false replacement (text.length + 1) text
        | .everywhere => if isEmpty then text else pattern.replace true replacement (text.length + 1) text
        | .atStart =>
          match pattern.longestStart? text with
          | some left => replacement ++ left
          | none => text
        | .atEnd =>
          match Pattern.longestStart? (Pattern.reversed pattern) text.reverse with
          | some left => left.reverse ++ replacement
          | none => text
    return (selected.map change).glyphs (← get) isQuoted
  | .recase toUpper everywhere word => do
    let selected ← select name key
    let pattern := Pattern.ofMarked (Glyph.markedOf (← expandPieces false false word))
    let pattern := if word.isEmpty then none else some pattern
    let change (text : String) : String := String.ofList (recasedWhere toUpper everywhere pattern text.toList)
    return (selected.map change).glyphs (← get) isQuoted
  | .transform letter => do
    let s ← get
    if letter = 'a' then
      return Glyph.ofValue isQuoted (((s.lookup? name).map markLetters).getD "")
    else
      let selected ← select name key
      return (selected.map (transformed letter)).glyphs s isQuoted
  | .indirect use => do
    let selected ← select name key
    match selected with
    | .one (some target) =>
      let base := String.ofList (target.toList.takeWhile (· != '['))
      let key := (Arithmetic.takeKey? 0 (target.toList.drop (base.length + 1))).map fun (key, _) => String.ofList key
      expandUse isQuoted base key use
    | _ => Deed.refuse (name ++ ": invalid indirect expansion") 1
  | .names => do
    let s ← get
    let names := (s.bindings.map Prod.fst).filter (·.startsWith name)
    return (Selected.several false (names.mergeSort fun a b => a ≤ b)).glyphs s isQuoted
  | .keys => do
    let s ← get
    let keys := ((s.content? name).map Content.keys).getD []
    return (Selected.several (key == some "*") keys).glyphs s isQuoted
  | .malformed source => do
    match (← get).dialect with
    | .standard => Deed.refuse "Bad substitution"
    | .extended => Deed.refuse ("$\x7b" ++ String.ofList source ++ "\x7d: bad substitution") 1
where
  /-- Whether a parameter is set. -/
  isThere (s : Shell) (emptyIsNone : Bool) (selected : Selected) : Bool :=
    (selected.text? s).any fun value => !(emptyIsNone && value.isEmpty)
  /-- Fails if a parameter is not set and has to be. -/
  checkSet (name : String) (key : Option String) (selected : Selected) : Deed Unit := do
    let s ← get
    if s.isOn "nounset" && selected = .one none then
      refuseUnset (label name key) (if s.isExtended then "unbound variable" else "parameter not set")

end

/-! ## Words -/

/-- What a word stands for, before it is split. -/
def expandWord (isSetting : Bool) (word : Word) : Deed (List Glyph) := do
  expandPieces false false (replaceTilde (← get) isSetting word)

/-- The text of a word that is not split. -/
def textOfWord (word : Word) : Deed String := do
  let glyphs ← expandWord false word
  return Glyph.textOf (fieldJoint (← get)) glyphs

/-- The value of a setting. -/
def valueOfWord (word : Word) : Deed String := do
  let glyphs ← expandWord true word
  return Glyph.textOf (fieldJoint (← get)) glyphs

/-- The pattern that a word is. -/
def patternOfWord (word : Word) : Deed Pattern := do
  return Pattern.ofMarked (Glyph.markedOf (← expandWord false word))

/-- The text of a document in a script. -/
def textOfDocument (word : Word) : Deed String := do
  let glyphs ← expandPieces false false word
  return Glyph.textOf (fieldJoint (← get)) glyphs

/-- The paths that a field finds, or the field itself. -/
def pathsOf (field : List Marked) : Deed (List String) := do
  let s ← get
  let own := [String.ofList (field.map Prod.fst)]
  if !s.isOn "noglob" && field.any Pattern.isSpecial then
    let fs ← Act.look
    let rule : Pattern.DotRule := { areFound := s.isOn "dotglob", hasDirectories := !s.isExtended }
    match Pattern.paths fs rule field with
    | [] =>
      if s.isOn "failglob" then Deed.refuse ("no match: " ++ own.headD "") 1
      else return if s.isOn "nullglob" then [] else own
    | paths => return paths
  else return own

/-- The fields of a word. -/
def fields (word : Word) : Deed (List String) := do
  let glyphs ← expandWord false word
  let separators := (← get).separators
  let paths ← (Glyph.split separators glyphs.length none glyphs).mapM pathsOf
  return paths.flatten

/-- The fields of words. -/
def allFields (words : List Word) : Deed (List String) := do
  return (← words.mapM fields).flatten

end BatchJob.Machine.Shell
