import BatchJob.Machine.Shell.Reader.Cursor

/-!
# Reading words

A word is read piece by piece: up to the first blank or operator, or up to the mark that closes what it stands
in. Scripts inside a word are read by the reader of commands, which is given as `inner`; it takes the
parenthesis after the script too.
-/

namespace BatchJob.Machine.Script.Reading

/-- What ends a sequence of pieces. -/
inductive Closer
  /-- A blank or an operator. -/
  | blank
  | quote
  /-- A closing brace, or one of some characters. -/
  | brace (others : List Char)
  /-- A closing bracket. -/
  | bracket
  /-- The parenthesis that closes a group of patterns. -/
  | group
  /-- A blank outside of parentheses. -/
  | expression
  /-- Two closing parentheses, or one more for each that is open. -/
  | parens (depth : Nat)
  /-- Nothing but the end of the text. -/
  | finish
  deriving DecidableEq, Repr

/-- What a sequence of pieces stands in. -/
structure Place where
  closer : Closer
  /-- Whether apostrophes and most backslashes stand for themselves. -/
  isDouble : Bool := false
  isQuoted : Bool := false
  /-- Whether quotes stand for themselves. -/
  isDocument : Bool := false
  deriving DecidableEq, Repr

/-- Whether a character ends a word outside quotes. -/
def endsWord (c : Char) : Bool :=
  c == ' ' || c == '\t' || c == '\n' || c == ';' || c == '&' || c == '|' || c == '(' || c == ')' ||
    c == '<' || c == '>'

/-- Whether a character may start the name of a variable. -/
def isNameStart (c : Char) : Bool :=
  c.isAlpha || c == '_'

/-- Whether a character may stand in the name of a variable. -/
def isNameChar (c : Char) : Bool :=
  c.isAlphanum || c == '_'

/-- Whether a text is the name of a variable. -/
def isName (text : String) : Bool :=
  text.toList.head?.any isNameStart && text.toList.all isNameChar

/-- The pieces up to a bracket outside quotes, and those after it. Brackets may stand in between in pairs. -/
def takeSubscript (word : Word) (depth : Nat := 0) : Option (Word × Word) :=
  match word with
  | [] => none
  | .text false text :: rest =>
    let rec scan (depth : Nat) (before : List Char) : List Char → Nat ⊕ (List Char × List Char)
      | [] => .inl depth
      | ']' :: after => if depth = 0 then .inr (before.reverse, after) else scan (depth - 1) (']' :: before) after
      | c :: after => scan (if c = '[' then depth + 1 else depth) (c :: before) after
    match scan depth [] text with
    | .inr (inner, after) =>
      some (if inner.isEmpty then [] else [.text false inner], if after.isEmpty then rest else .text false after :: rest)
    | .inl depth => (takeSubscript rest depth).map fun (inner, after) => (.text false text :: inner, after)
  | piece :: rest => (takeSubscript rest depth).map fun (inner, after) => (piece :: inner, after)

/-- Whether a character is a parameter on its own. -/
def isSpecial (c : Char) : Bool :=
  c == '#' || c == '?' || c == '$' || c == '!' || c == '*' || c == '@' || c == '-'

/-- Whether a character ends the pieces in a place. -/
def Place.closesAt (place : Place) (c : Char) : Bool :=
  match place.closer with
  | .blank => endsWord c
  | .quote => c == '"'
  | .brace others => c == '}' || others.contains c
  | .bracket => c == ']'
  | .group => c == ')'
  | .expression => c == ' ' || c == '\t' || c == '\n' || c == ')'
  | .parens _ | .finish => false

/-- Whether a character stands for itself in a place. -/
def Place.isOrdinary (place : Place) (c : Char) : Bool :=
  !(c == '\\' || c == '"' || c == '$' || c == '\x60' || (c == '\'' && !place.isDouble)) &&
    !place.closesAt c &&
    match place.closer with
    | .parens _ => c != '(' && c != ')'
    | .group | .expression => c != '('
    | _ => true

/-- Whether a backslash before a character takes away its meaning. -/
def Place.escapes (place : Place) (c : Char) : Bool :=
  !place.isDouble || c == '\\' || c == '\x60' || c == '$' || (c == '"' && !place.isDocument) ||
    (match place.closer with
    | .brace _ => c == '}'
    | _ => false)

/-- The characters of up to `n` digits in a base, and the text after them. -/
def takeDigits (base n : Nat) (text : List Char) : Nat × List Char :=
  let value? (c : Char) : Option Nat :=
    let value :=
      if c.isDigit then c.toNat - 48
      else if 'a' ≤ c && c ≤ 'f' then c.toNat - 87
      else if 'A' ≤ c && c ≤ 'F' then c.toNat - 55
      else 16
    if value < base then some value else none
  let digits := (text.take n).takeWhile fun c => (value? c).isSome
  (digits.foldl (fun value c => base * value + (value? c).getD 0) 0, text.drop digits.length)

/-- The octets that encode a character with a given code. -/
def encoded (code : Nat) : List Char :=
  (String.singleton (Char.ofNat code)).toUTF8.toList.map fun b => Char.ofNat b.toNat

/-- What the escapes between apostrophes after a dollar sign stand for, and the text after the apostrophe. The
fuel is the length of the text at most. -/
def takeEscaped (fuel : Nat) (text : List Char) : Option (List Char × List Char) :=
  match fuel with
  | 0 => none
  | fuel + 1 =>
    let goOn (front rest : List Char) : Option (List Char × List Char) :=
      (takeEscaped fuel rest).map fun (inner, after) => (front ++ inner, after)
    let coded (front : Nat × List Char) : Option (List Char × List Char) :=
      goOn [Char.ofNat (front.1 % 256)] front.2
    match text with
    | [] => none
    | '\'' :: rest => some ([], rest)
    | '\\' :: c :: rest =>
      match c with
      | 'n' => goOn ['\n'] rest
      | 't' => goOn ['\t'] rest
      | 'r' => goOn ['\r'] rest
      | 'a' => goOn ['\x07'] rest
      | 'b' => goOn ['\x08'] rest
      | 'e' | 'E' => goOn ['\x1b'] rest
      | 'f' => goOn ['\x0c'] rest
      | 'v' => goOn ['\x0b'] rest
      | '\\' | '\'' | '"' | '?' => goOn [c] rest
      | 'x' => if (takeDigits 16 1 rest).2.length < rest.length then coded (takeDigits 16 2 rest)
        else goOn ['\\', 'x'] rest
      | 'u' => goOn (encoded (takeDigits 16 4 rest).1) (takeDigits 16 4 rest).2
      | 'U' => goOn (encoded (takeDigits 16 8 rest).1) (takeDigits 16 8 rest).2
      | 'c' => goOn ((rest.take 1).map fun d => Char.ofNat (d.toNat % 32)) (rest.drop 1)
      | _ => if '0' ≤ c && c ≤ '7' then coded (takeDigits 8 3 (c :: rest)) else goOn ['\\', c] rest
    | c :: rest => goOn [c] rest

/-- The script between backquotes, and the text after it. A backslash counts only before a few characters. -/
def takeBackquoted (isDouble : Bool) : List Char → Option (List Char × List Char)
  | [] => none
  | '\x60' :: rest => some ([], rest)
  | '\\' :: '\n' :: rest => takeBackquoted isDouble rest
  | '\\' :: c :: rest => do
    let (inner, after) ← takeBackquoted isDouble rest
    let isEscaped := c == '\\' || c == '\x60' || c == '$' || (c == '"' && isDouble)
    return (if isEscaped then c :: inner else '\\' :: c :: inner, after)
  | c :: rest => do
    let (inner, after) ← takeBackquoted isDouble rest
    return (c :: inner, after)

/-- Takes a character that has to come next and closes what was opened. -/
def close (c : Char) (opening : String) : Reading Unit := do
  match ← rest with
  | d :: rest => if c = d then goTo rest else refuse (.unclosed opening)
  | [] => refuse (.unclosed opening)

/-- A parameter's name in braces, and whether its length is asked for; absent where none can be read. -/
def bracedName : Reading (Option (String × Bool)) := do
  let text ← rest
  let named (text : List Char) (isLength : Bool) : Reading (Option (String × Bool)) := do
    match skipJoins text with
    | c :: _ =>
      let (name, after) := takeRun (if isNameStart c then isNameChar else Char.isDigit) text
      goTo after
      return some (String.ofList name, isLength)
    | [] => return none
  match skipJoins text with
  | '#' :: after =>
    match skipJoins after with
    | c :: after₂ =>
      if isNameChar c then named after true
      else if isSpecial c && (skipJoins after₂).head? == some '}' then
        goTo after₂
        return some (String.singleton c, true)
      else
        goTo after
        return some ("#", false)
    | [] => return none
  | c :: after =>
    if isNameChar c then named text false
    else if isSpecial c then
      goTo after
      return some (String.singleton c, false)
    else return none
  | [] => return none

/-- Whether a character is a letter that names a way of writing a value. -/
def isTransform (c : Char) : Bool :=
  ['Q', 'E', 'P', 'A', 'K', 'a', 'k', 'u', 'U', 'L'].contains c

/-- Whether a character before a parenthesis makes a group of patterns. -/
def startsGroup (c : Char) : Bool :=
  c == '?' || c == '*' || c == '+' || c == '@' || c == '!'

mutual

/-- The pieces up to what closes them. The fuel bounds their number and depth. -/
def pieces (inner : Reading Script) (fuel : Nat) (place : Place) : Reading (List Piece) := do
  match fuel with
  | 0 => return []
  | fuel + 1 =>
    let goOn (rest : List Char) (front : List Piece) : Reading (List Piece) := do
      goTo rest
      return front ++ (← pieces inner fuel place)
    let text ← rest
    match text with
    | [] => return []
    | '\\' :: '\n' :: rest => goOn rest []
    | ['\\'] => goOn [] [.text true ['\\']]
    | '\\' :: c :: rest =>
      goOn rest [.text true (if place.escapes c then [c] else ['\\', c])]
    | c :: rest =>
      if place.closesAt c then
        if place.closer = .blank && (← isExtended) && (c == '<' || c == '>') && rest.head? == some '(' then
          goTo (rest.drop 1)
          let script ← inner
          goOn (← Reading.rest) [.channel (c == '<') script]
        else return []
      else if c == '\'' && !place.isDouble then
        let quoted := rest.takeWhile (· != '\'')
        goTo (rest.drop quoted.length)
        close '\'' "'"
        goOn (← Reading.rest) [.quotes, .text true quoted]
      else if c == '"' then
        let isPlain := place.isDocument || ((place.closer matches .parens _) && !(← isExtended))
        if isPlain then goOn rest [.text true ['"']]
        else
          goTo rest
          let isQuoted := !place.isQuoted || (← isExtended)
          let quoted ← pieces inner fuel { closer := .quote, isDouble := true, isQuoted }
          close '"' "\""
          goOn (← Reading.rest) (.quotes :: quoted ++ [.quotes])
      else if c == '\x60' then
        match takeBackquoted place.isDouble rest with
        | none => refuse (.unclosed "\x60")
        | some (text, after) =>
          let cursor ← get
          set { cursor with text := text ++ [')'], lastLine := cursor.line + text.count '\n' }
          let script ← inner
          set { cursor with text := after }
          goOn after [.output place.isQuoted script]
      else if c == '$' then
        goTo rest
        let front ← dollar inner fuel place
        goOn (← Reading.rest) front
      else
        match place.closer, c, rest with
        | .parens depth, '(', rest =>
          goTo rest
          return .text true ['('] :: (← pieces inner fuel { place with closer := .parens (depth + 1) })
        | .parens 0, ')', ')' :: _ => return []
        | .parens 0, ')', rest =>
          if ← isExtended then refuse (.unclosed "((") else goOn rest [.text true [')']]
        | .parens (depth + 1), ')', rest =>
          goTo rest
          return .text true [')'] :: (← pieces inner fuel { place with closer := .parens depth })
        | .group, '(', rest | .expression, '(', rest =>
          let inside ← group inner fuel rest
          goOn (← Reading.rest) inside
        | _, _, _ =>
          let run := rest.takeWhile place.isOrdinary
          let front := .text place.isQuoted (c :: run)
          match rest.drop run.length with
          | '(' :: after =>
            if (← get).hasGroups && !place.isDouble && startsGroup ((c :: run).getLastD c) then
              let inside ← group inner fuel after
              goOn (← Reading.rest) (front :: inside)
            else goOn ('(' :: after) [front]
          | after => goOn after [front]

/-- The patterns of a group whose parenthesis has been read. -/
def group (inner : Reading Script) (fuel : Nat) (text : List Char) : Reading (List Piece) := do
  match fuel with
  | 0 => return []
  | fuel + 1 =>
    goTo text
    let patterns ← pieces inner fuel { closer := .group }
    close ')' "("
    return .text false ['('] :: patterns ++ [.text false [')']]

/-- What a dollar sign and the text after it stand for. -/
def dollar (inner : Reading Script) (fuel : Nat) (place : Place) : Reading (List Piece) := do
  match fuel with
  | 0 => return []
  | fuel + 1 =>
    let text ← rest
    let extended ← isExtended
    match skipJoins text with
    | '(' :: rest =>
      match skipJoins rest with
      | '(' :: after =>
        let start ← get
        let arithmetic : Reading (List Piece) := do
          goTo after
          let expression ←
            pieces inner fuel { closer := .parens 0, isDouble := true, isQuoted := true }
          close ')' "(("
          close ')' "(("
          return [.value place.isQuoted expression]
        if extended then
          match arithmetic.run start with
          | .ok (found, cursor) =>
            set cursor
            return found
          | .error _ =>
            goTo rest
            return [.output place.isQuoted (← inner)]
        else arithmetic
      | _ =>
        goTo rest
        return [.output place.isQuoted (← inner)]
    | '{' :: rest =>
      goTo rest
      braced inner fuel place
    | '\'' :: rest =>
      if extended && !place.isDouble then
        match takeEscaped rest.length rest with
        | some (quoted, after) =>
          goTo after
          return [.quotes, .text true quoted]
        | none => refuse (.unclosed "'")
      else return [.text place.isQuoted ['$']]
    | c :: after =>
      if isNameStart c then
        let (name, after) := takeRun isNameChar (c :: after)
        goTo after
        return [.parameter place.isQuoted (String.ofList name) none .plain]
      else if c.isDigit || isSpecial c then
        goTo after
        return [.parameter place.isQuoted (String.singleton c) none .plain]
      else if c == '"' && extended && !place.isDouble then return []
      else return [.text place.isQuoted ['$']]
    | [] => return [.text place.isQuoted ['$']]

/-- A parameter in braces. -/
def braced (inner : Reading Script) (fuel : Nat) (place : Place) : Reading (List Piece) := do
  match fuel with
  | 0 => return []
  | fuel + 1 =>
    let start ← rest
    let extended ← isExtended
    let isIndirect :=
      extended && start.head? == some '!' && (start.drop 1).head?.any fun c => isNameChar c || c == '@'
    if isIndirect then goTo (start.drop 1)
    let name ← bracedName
    let (name, isLength) := name.getD ("", false)
    let isMissing := name.isEmpty
    let subscript ← if extended && isName name && (← rest).head? == some '[' then do
        goTo ((← rest).drop 1)
        let subscript ← pieces inner fuel { closer := .bracket, isDouble := true }
        close ']' "["
        pure (some subscript)
      else pure none
    let word : Place := { place with closer := .brace [], isDocument := false }
    let pattern (others : List Char) : Place := { closer := .brace others }
    let accept (sign : String) : Reading Bool := Reading.accept sign
    let malformed : Reading Use := do
      discard (pieces inner fuel word)
      return .malformed (start.take (start.length - (← rest).length))
    let use : Use ← do
      if isMissing then malformed
      else if isLength then
        if (skipJoins (← rest)).head? == some '}' then pure .length else malformed
      else if ← accept ":-" then pure (.fallback true false (← pieces inner fuel word))
      else if ← accept ":=" then pure (.fallback true true (← pieces inner fuel word))
      else if ← accept ":+" then pure (.replacement true (← pieces inner fuel word))
      else if ← accept ":?" then pure (.requirement true (← pieces inner fuel word))
      else if ← accept "-" then pure (.fallback false false (← pieces inner fuel word))
      else if ← accept "=" then pure (.fallback false true (← pieces inner fuel word))
      else if ← accept "+" then pure (.replacement false (← pieces inner fuel word))
      else if ← accept "?" then pure (.requirement false (← pieces inner fuel word))
      else if ← accept "##" then pure (.drop false true (← pieces inner fuel (pattern [])))
      else if ← accept "#" then pure (.drop false false (← pieces inner fuel (pattern [])))
      else if ← accept "%%" then pure (.drop true true (← pieces inner fuel (pattern [])))
      else if ← accept "%" then pure (.drop true false (← pieces inner fuel (pattern [])))
      else if (skipJoins (← rest)).head? == some '}' then pure .plain
      else if !extended then
        if (← accept ":") && (← rest).head? == some '}' then pure .plain else malformed
      else if ← accept ":" then
        let first ← pieces inner fuel { closer := .brace [':'], isDouble := true }
        if ← accept ":" then
          pure (.slice first (some (← pieces inner fuel { closer := .brace [], isDouble := true })))
        else pure (.slice first none)
      else if ← accept "/" then
        let anchor ← do
          if ← accept "/" then pure Anchor.everywhere
          else if ← accept "#" then pure .atStart
          else if ← accept "%" then pure .atEnd
          else pure .anywhere
        let source ← pieces inner fuel (pattern ['/'])
        let target ← if ← accept "/" then pieces inner fuel { word with isDouble := false } else pure []
        pure (.substitute anchor source target)
      else if ← accept "^^" then pure (.recase true true (← pieces inner fuel (pattern [])))
      else if ← accept "^" then pure (.recase true false (← pieces inner fuel (pattern [])))
      else if ← accept ",," then pure (.recase false true (← pieces inner fuel (pattern [])))
      else if ← accept "," then pure (.recase false false (← pieces inner fuel (pattern [])))
      else
        match ← rest with
        | '@' :: '}' :: after =>
          if isIndirect then
            goTo ('}' :: after)
            pure .names
          else malformed
        | '*' :: '}' :: after =>
          if isIndirect then
            goTo ('}' :: after)
            pure .names
          else malformed
        | '@' :: c :: '}' :: after =>
          if isTransform c then
            goTo ('}' :: after)
            pure (.transform c)
          else malformed
        | _ => malformed
    close '}' (if word.isDouble && !place.isDocument && use matches .fallback .. then "\"" else "\x7b")
    let use : Use :=
      if isIndirect then
        match use, subscript with
        | .names, _ => .names
        | .plain, some [.text _ ['@']] | .plain, some [.text _ ['*']] => .keys
        | use, _ => .indirect use
      else use
    return [.parameter place.isQuoted name subscript use]

end

/-- The mark of a here-document without its quotes, whether it has any, and the text after it. -/
def takeMark : List Char → List Char × Bool × List Char
  | [] => ([], false, [])
  | '\\' :: c :: rest =>
    let (mark, _, after) := takeMark rest
    (c :: mark, true, after)
  | c :: rest =>
    if endsWord c then ([], false, c :: rest)
    else if c == '\'' || c == '"' then
      let quoted := rest.takeWhile (· != c)
      let (mark, _, after) := takeMark (rest.drop (quoted.length + 1))
      (quoted ++ mark, true, after)
    else
      let (mark, isQuoted, after) := takeMark rest
      (c :: mark, isQuoted, after)
termination_by text => text.length

/-- The lines up to one that is a given mark, and the text after that line, if there is one. A line that ends in a
backslash joins the next one to it, unless the document is taken as it stands; `completes` says that the last line of
all gets a line end. The fuel is the number of lines at most. -/
def takeDocument (fuel : Nat) (isIndented joins completes : Bool) (mark text : List Char) :
    List Char × Option (List Char) :=
  match fuel, text with
  | 0, _ | _, [] => ([], none)
  | fuel + 1, text =>
    let lineOf (text : List Char) : List Char × List Char × List Char :=
      let line := text.takeWhile (· != '\n')
      (line, if completes || line.length < text.length then ['\n'] else [], text.drop (line.length + 1))
    let (line, lineEnd, rest) := lineOf text
    let line := if isIndented then line.dropWhile (· == '\t') else line
    if line = mark then ([], some rest)
    else
      let isJoined := joins && (line.reverse.takeWhile (· == '\\')).length % 2 = 1
      let (next, nextEnd, rest) := if isJoined && !rest.isEmpty then lineOf rest else ([], [], rest)
      let (lines, after) := takeDocument fuel isIndented joins completes mark rest
      (line ++ lineEnd ++ next ++ nextEnd ++ lines, after)

/-- The pieces of a here-document whose sign has been read. -/
def document (inner : Reading Script) (fuel : Nat) : Reading Word := do
  let text ← rest
  let isIndented := text.head? == some '-'
  let text := (if isIndented then text.drop 1 else text).dropWhile fun c => c == ' ' || c == '\t'
  let (mark, isQuoted, after) := takeMark text
  if after.length = text.length then
    refuse (.unexpected (if after.head? == some '\n' then "newline" else "end of file") none)
  let line := after.takeWhile (· != '\n')
  let lines := after.drop (line.length + 1)
  let cursor ← get
  let (document, left?) := takeDocument lines.length isIndented (!isQuoted) (← isExtended) mark lines
  let left := left?.getD []
  let cut : Cursor := {
    cursor with
    openDocuments := cursor.openDocuments ++ if left?.isNone then [(cursor.line, String.ofList mark)] else []
    text := if lines.isEmpty then after else line ++ '\n' :: left
    cutLines := cursor.cutLines + (lines.count '\n' - left.count '\n') }
  if isQuoted then
    set cut
    return [.text true document]
  else
    set { cursor with text := document }
    let word ← pieces inner fuel { closer := .finish, isDouble := true, isQuoted := true, isDocument := true }
    set cut
    return word

end BatchJob.Machine.Script.Reading
