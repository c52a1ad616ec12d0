import BatchJob.Machine.Shell.Reader.Braces
import BatchJob.Machine.Shell.Reader.Word

/-!
# Reading commands

Commands are read by descent through lists, chains, pipelines and single commands. A script is read line by line:
what stands before a line that is no command is a script all the same, and what a line says about names that stand
for other texts counts from the next line on.
-/

namespace BatchJob.Machine

namespace Script

/-- The commands of the shell itself whose names are no names for functions. -/
def reservedNames : List String :=
  [":", ".", "break", "continue", "eval", "exec", "exit", "export", "readonly", "return", "set", "shift",
    "times", "trap", "unset"]

/-- The words that begin, divide and end commands. -/
def keywords : Dialect → List String
  | .standard =>
    ["!", "case", "do", "done", "elif", "else", "esac", "fi", "for", "if", "in", "then", "until", "while",
      "\x7b", "\x7d"]
  | .extended =>
    ["!", "case", "do", "done", "elif", "else", "esac", "fi", "for", "if", "then", "until", "while", "\x7b",
      "\x7d", "function", "time", "[["]

/-- The keywords that end a list of commands. -/
def closingKeywords : List String :=
  ["do", "done", "elif", "else", "esac", "fi", "then", "\x7d"]

/-- The operators, a longer one before each shorter one it starts with. -/
def operators : Dialect → List String
  | .standard => ["&&", "||", ";;", "&", "|", ";", "(", ")", "\n"]
  | .extended => [";;&", ";;", ";&", ";", "&&", "||", "|&", "|", "&", "(", ")", "\n"]

/-- The signs of redirections, a longer one before each shorter one it starts with: the descriptor that is meant
where none is given, and what is done with it. -/
def redirectionSigns (dialect : Dialect) : List (String × Nat × RedirectionKind) :=
  let shared : List (String × Nat × RedirectionKind) :=
    [(">>", 1, .path .append), (">|", 1, .path .truncate), (">&", 1, .duplicate), (">", 1, .fresh),
      ("<<", 0, .document), ("<&", 0, .duplicate), ("<>", 0, .path .readWrite), ("<", 0, .path .read)]
  match dialect with
  | .standard => shared
  | .extended => ("<<<", 0, .line) :: ("&>>", 1, .both .append) :: ("&>", 1, .both .truncate) :: shared

/-- What a text begins with, of some texts with meanings, and the text after it. -/
def startOf? {α : Type} (choices : List (String × α)) (text : List Char) : Option (α × List Char) :=
  choices.findSome? fun (sign, meaning) =>
    if sign.toList.isPrefixOf text then some (meaning, text.drop sign.length) else none

/-- The setting of a variable that a word is, if it begins with a name and a sign of equality. -/
def setting? (dialect : Dialect) (word : Word) : Option Setting :=
  match word with
  | .text false text :: rest =>
    let name := text.takeWhile Reading.isNameChar
    let after := text.drop name.length
    let value (start : List Char) (rest : List Piece) : Word :=
      if start.isEmpty then rest else .text false start :: rest
    let extended := dialect = .extended
    if !Reading.isName (String.ofList name) then none
    else
      match after with
      | '=' :: start => some (.mk (String.ofList name) none false (value start rest))
      | '+' :: '=' :: start =>
        if extended then some (.mk (String.ofList name) none true (value start rest)) else none
      | '[' :: inner =>
        if extended then
          match Reading.takeSubscript (.text false inner :: rest) with
          | some (subscript, .text false ('=' :: start) :: rest) =>
            some (.mk (String.ofList name) (some subscript) false (value start rest))
          | some (subscript, .text false ('+' :: '=' :: start) :: rest) =>
            some (.mk (String.ofList name) (some subscript) true (value start rest))
          | _ => none
        else none
      | _ => none
  | _ => none

namespace Reading

/-- The text of a word without quotes and parameters. -/
def plainText? (word : Word) : Option String :=
  let texts? := word.mapM fun
    | Piece.text false text => some text
    | _ => none
  texts?.map fun texts => String.ofList texts.flatten

/-- Drops blanks and a comment. -/
def skipBlanks : List Char → List Char
  | ' ' :: rest | '\t' :: rest | '\\' :: '\n' :: rest => skipBlanks rest
  | '#' :: rest => rest.dropWhile (· != '\n')
  | text => text

/-- The digits before the sign of a redirection, and the text from the sign on. -/
def takeDescriptor (dialect : Dialect) (text : List Char) : Option Nat × List Char :=
  let digits := text.takeWhile Char.isDigit
  let isNumber := !digits.isEmpty && (dialect = .extended || digits.length = 1)
  match isNumber, text.drop digits.length with
  | true, '<' :: rest => ((String.ofList digits).toNat?, '<' :: rest)
  | true, '>' :: rest => ((String.ofList digits).toNat?, '>' :: rest)
  | _, _ => (none, text)

/-- Reads a word up to a blank or an operator. -/
def word (inner : Reading Script) (fuel : Nat) : Reading Word := do
  goTo (skipBlanks (← rest))
  pieces inner fuel { closer := .blank }

/-- Whether a word is the name of an array and a sign of equality, after which its items may stand. -/
def opensItems (word : Word) : Bool :=
  match setting? .extended word with
  | some (.mk _ _ _ []) => true
  | _ => false

/-- An item of an array with its key, if it has one. -/
def item (word : Word) : Option Word × Word :=
  match word with
  | .text false ('[' :: text) :: rest =>
    match takeSubscript (.text false text :: rest) with
    | some (key, .text false ('=' :: value) :: rest) =>
      (some key, if value.isEmpty then rest else .text false value :: rest)
    | _ => (none, word)
  | _ => (none, word)

/-- The items of an array, up to the parenthesis after them. -/
def items (inner : Reading Script) (fuel : Nat) : Reading (List (Option Word × Word)) := do
  match fuel with
  | 0 => return []
  | fuel + 1 =>
    match skipBlanks (← rest) with
    | '\n' :: after =>
      goTo after
      items inner fuel
    | ')' :: after =>
      goTo after
      return []
    | [] => refuse (.unclosed "(")
    | text =>
      goTo text
      let word ← pieces inner fuel { closer := .blank }
      if (← rest).length = text.length then refuse (.unexpected "word" none)
      let own := (Braces.words word).map item
      return own ++ (← items inner fuel)

/-- How the token is named that stands where a word has to come. -/
def missingWord? (dialect : Dialect) (text : List Char) : Option String :=
  let named (sign : String) : String := if dialect = .extended then sign else "\"" ++ sign ++ "\""
  let text := skipBlanks text
  let redirection? := startOf? ((redirectionSigns dialect).map fun (sign, _) => (sign, sign)) (takeDescriptor dialect text).2
  match text, redirection?, startOf? ((operators dialect).map fun sign => (sign, sign)) text with
  | [], _, _ => some "end of file"
  | '\n' :: _, _, _ => some "newline"
  | _, some (sign, after), _ =>
    if dialect = .extended && after.head? == some '(' then none
    else some (if dialect = .extended then sign else "redirection")
  | _, none, some (sign, _) => some (named sign)
  | _, none, none => none

/-- Reads the token at the front of the text. -/
def token (inner : Reading Script) (fuel : Nat) : Reading TokenKind := do
  goTo (skipBlanks (← rest))
  let text ← rest
  let dialect := (← get).dialect
  let (descriptor, afterNumber) := takeDescriptor dialect text
  match text, startOf? (redirectionSigns dialect) afterNumber with
  | [], _ => return .finish
  | _, some ((usual, kind), after) =>
    let isChannel := dialect = .extended && after.head? == some '(' && (kind matches .fresh | .path .read)
    if !isChannel then
      let target := if kind = .document && after.head? == some '-' then after.drop 1 else after
      match missingWord? dialect target with
      | some found => refuse (.unexpected found none)
      | none => goTo after
      let target ← if kind = .document then document inner fuel else word inner fuel
      let kind : RedirectionKind :=
        match kind, descriptor, plainText? target with
        | .duplicate, none, some name =>
          if dialect = .extended && afterNumber.head? == some '>' && name.toNat?.isNone && name ≠ "-" then
            .both .truncate
          else kind
        | _, _, _ => kind
      return .redirection (.mk (descriptor.getD usual) kind target)
  | _, none => pure ()
  match startOf? ((operators dialect).map fun sign => (sign, sign)) text with
  | some (sign, after) =>
    modify fun c => { c with text := after, cutLines := if sign = "\n" then 0 else c.cutLines }
    return .operator sign
  | none =>
    let found ← pieces inner fuel { closer := .blank }
    let found ←
      if dialect = .extended && opensItems found && (← rest).head? == some '(' then
        goTo ((← rest).drop 1)
        pure (found ++ [.items (← items inner fuel)])
      else pure found
    return .word found (plainText? found)
/-- The next token, which stays to be taken. -/
def peek (inner : Reading Script) (fuel : Nat) : Reading Token := do
  match (← get).ahead with
  | some token => return token
  | none =>
    goTo (skipBlanks (← rest))
    let start ← rest
    let token : Token := { kind := ← token inner fuel, start }
    modify fun c => { c with ahead := some token, busy := c.busy.filter fun (_, after) => after < c.text.length }
    return token

/-- Takes the token that has been looked at. -/
def take : Reading Unit :=
  modify fun c => { c with ahead := none }

/-- The next token at a place where a command may begin: the name of an alias is replaced by its text. -/
def peekCommand (inner : Reading Script) (fuel depth : Nat) : Reading Token := do
  let found ← peek inner fuel
  match depth, found.kind with
  | depth + 1, .word _ (some name) =>
    let c ← get
    match c.aliases.lookup name with
    | some text =>
      if (keywords c.dialect).contains name || c.busy.any (·.1 = name) then return found
      else
        set { c with
          text := text.toList ++ c.text
          lastLine := c.lastLine + text.toList.count '\n'
          ahead := none
          busy := (name, c.text.length) :: c.busy }
        peekCommand inner fuel depth
    | none => return found
  | _, _ => return found

/-- Whether a token is an operator. -/
def isOperator (token : Token) (sign : String) : Bool :=
  match token.kind with
  | .operator found => found == sign
  | _ => false

/-- Whether a token is a word without quotes. -/
def isPlain (token : Token) (text : String) : Bool :=
  match token.kind with
  | .word _ (some found) => found == text
  | _ => false

/-- Whether a token ends a list of commands. -/
def endsList (token : Token) : Bool :=
  match token.kind with
  | .finish => true
  | .operator sign => sign == ")" || sign == ";;" || sign == ";&" || sign == ";;&"
  | .word _ (some text) => closingKeywords.contains text
  | _ => false

/-- How a token is named. -/
def describe (c : Cursor) (token : Token) : String :=
  match c.dialect, token.kind with
  | _, .finish => "end of file"
  | _, .operator "\n" => "newline"
  | .standard, .operator sign => "\"" ++ sign ++ "\""
  | .standard, .redirection _ => "redirection"
  | .standard, .word _ (some text) =>
    if (keywords .standard).contains text then "\"" ++ text ++ "\"" else "word"
  | .standard, .word .. => "word"
  | .extended, .operator sign => sign
  | .extended, _ => String.ofList ((token.start.take (token.start.length - c.text.length)).takeWhile (· != '\n'))

/-- Fails at a token. -/
def unexpected {α : Type} (token : Token) (expected : Option String) : Reading α := do
  refuse (.unexpected (describe (← get) token) expected)

/-- Takes a keyword or an operator that has to come next. -/
def expect (inner : Reading Script) (fuel : Nat) (text : String) : Reading Unit := do
  let token ← peek inner fuel
  if isPlain token text || isOperator token text then take else unexpected token (some text)

/-- Passes over line ends. -/
def skipLines (inner : Reading Script) (fuel depth : Nat) : Reading Unit := do
  match depth with
  | 0 => return
  | depth + 1 =>
    if isOperator (← peek inner fuel) "\n" then
      take
      skipLines inner fuel depth

/-- What a list of commands stands in. -/
inductive Range
  /-- Commands up to the end of the line. -/
  | line
  /-- Commands up to what closes them, at least one. -/
  | body
  /-- Commands up to what closes them, if there are any. -/
  | anyBody
  deriving DecidableEq, Repr

/-- The words up to the end of the line. -/
def wordsToEnd (inner : Reading Script) (fuel : Nat) : Reading (List Word) := do
  match fuel with
  | 0 => return []
  | fuel + 1 =>
    match (← peek inner fuel).kind with
    | .word word _ =>
      take
      let own := if ← isExtended then Braces.words word else [word]
      return own ++ (← wordsToEnd inner fuel)
    | _ => return []

/-- The patterns of a branch, up to the parenthesis after them. The standard dialect takes any token for a pattern and
notices only what stands after it. -/
def patterns (inner : Reading Script) (fuel : Nat) : Reading (List Word) := do
  match fuel with
  | 0 => return []
  | fuel + 1 =>
    let token ← peek inner fuel
    let pattern ← match token.kind with
      | .word word _ => pure word
      | .finish => unexpected token (some ")")
      | _ => if ← isExtended then unexpected token none else pure []
    take
    let next ← peek inner fuel
    if isOperator next "|" then
      take
      return pattern :: (← patterns inner fuel)
    else if isOperator next ")" then
      take
      return [pattern]
    else
      match (← isExtended), next.kind with
      | false, .word .. => refuse (.unexpected "word" (some ")"))
      | _, _ => unexpected next (some ")")

/-- The expression between double parentheses. -/
def expressionInParens (inner : Reading Script) (fuel : Nat) : Reading Word := do
  let expression ← pieces inner fuel { closer := .parens 0, isDouble := true, isQuoted := true }
  close ')' "(("
  close ')' "(("
  return expression

/-- The parts of a word between semicolons. -/
def splitAtSemicolons (word : Word) : List Word :=
  word.foldr (fun piece parts =>
    match piece, parts with
    | .text isQuoted text, first :: others =>
      match ((String.ofList text).splitOn ";").map fun part => Piece.text isQuoted part.toList with
      | [] => parts
      | [only] => (only :: first) :: others
      | pieces => pieces.dropLast.map ([·]) ++ ((pieces.getLast?.toList ++ first) :: others)
    | piece, first :: others => (piece :: first) :: others
    | piece, [] => [[piece]]) [[]]

/-! ## Conditions in brackets -/

/-- The next part of a condition: an operator, a word, or nothing. -/
def testToken (inner : Reading Script) (fuel : Nat) (isExpression : Bool) : Reading Token := do
  match (← get).ahead with
  | some token => return token
  | none =>
    let text := (← rest).dropWhile fun c => c == ' ' || c == '\t' || c == '\n'
    goTo text
    let sign? := startOf? (["&&", "||", "(", ")", "<", ">"].map fun sign => (sign, sign)) text
    let kind ←
      match text, (if isExpression then none else sign?) with
      | [], _ => pure TokenKind.finish
      | _, some (sign, after) =>
        goTo after
        pure (.operator sign)
      | _, none =>
        let found ← pieces inner fuel { closer := if isExpression then .expression else .blank }
        if (← rest).length = text.length then pure (.operator (String.ofList (text.take 1)))
        else pure (.word found (plainText? found))
    let token : Token := { kind, start := text }
    modify fun c => { c with ahead := some token }
    return token

/-- The signs before an operand. -/
def unarySigns : List String :=
  ["-a", "-b", "-c", "-d", "-e", "-f", "-g", "-h", "-k", "-p", "-r", "-s", "-t", "-u", "-w", "-x", "-G", "-L",
    "-N", "-O", "-S", "-z", "-n", "-o", "-v"]

/-- The signs between two operands. -/
def binarySigns : List String :=
  ["=", "==", "!=", "=~", "-eq", "-ne", "-lt", "-le", "-gt", "-ge", "-nt", "-ot", "-ef"]

/-- The parts of the grammar of conditions. -/
inductive TestLevel
  | disjunction
  | conjunction
  | operand
  deriving DecidableEq, Repr

/-- Reads a part of a condition. -/
def test (inner : Reading Script) (fuel : Nat) (level : TestLevel) : Reading Test := do
  match fuel with
  | 0 => refuse (.unclosed "[[")
  | fuel + 1 =>
    match level with
    | .disjunction =>
      let first ← test inner fuel .conjunction
      if isOperator (← testToken inner fuel false) "||" then
        take
        return .either first (← test inner fuel .disjunction)
      else return first
    | .conjunction =>
      let first ← test inner fuel .operand
      if isOperator (← testToken inner fuel false) "&&" then
        take
        return .both first (← test inner fuel .conjunction)
      else return first
    | .operand =>
      let found ← testToken inner fuel false
      let operand (isExpression : Bool) : Reading Word := do
        let found ← testToken inner fuel isExpression
        match found.kind with
        | .word word _ =>
          take
          return word
        | _ => unexpected found none
      take
      match found.kind with
      | .operator "(" =>
        let condition ← test inner fuel .disjunction
        let next ← testToken inner fuel false
        if isOperator next ")" then
          take
          return condition
        else unexpected next none
      | .word _ (some "!") => return .negated (← test inner fuel .operand)
      | .word word plain =>
        if plain.any unarySigns.contains then return .unary (plain.getD "") (← operand false)
        else
          let next ← testToken inner fuel false
          match next.kind with
          | .operator "<" =>
            take
            return .binary "<" word (← operand false)
          | .operator ">" =>
            take
            return .binary ">" word (← operand false)
          | .word _ (some sign) =>
            if binarySigns.contains sign then
              take
              return .binary sign word (← operand (sign = "=~"))
            else return .unary "-n" word
          | _ => return .unary "-n" word
      | _ => unexpected found none

/-! ## Commands -/

/-- The parts of the grammar of commands. -/
inductive Level
  | list (range : Range) (before : Script) (isFirst : Bool)
  | chain
  /-- What follows the first part of a chain. -/
  | chainAfter (first : Script)
  | pipeline
  /-- What follows the first parts of a pipeline. -/
  | pipelineAfter (parts : List Script)
  | command
  /-- What follows the first words of a command. -/
  | simpleAfter (line : Nat) (settings : List Setting) (words : List Word) (redirections : List Redirection)
  /-- The redirections after a compound command. -/
  | redirectionsAfter (line : Nat) (body : Script) (redirections : List Redirection)
  /-- A condition and the branches after it. -/
  | choice
  /-- The branches that a word is matched against, after those that have been read. -/
  | branches (line : Nat) (subject : Word) (before : List Branch)
  /-- A loop whose variable has been read. -/
  | each (line : Nat) (name : String)
  /-- The body of a loop. -/
  | loopBody
  /-- The body of a function. -/
  | functionBody (name : String)

/-- Reads a part of the grammar. The fuel bounds the depth of the descent. -/
def read (fuel : Nat) (level : Level) : Reading Script := do
  match fuel with
  | 0 => return .nothing
  | fuel + 1 =>
    let inner : Reading Script := do
      let ahead := (← get).ahead
      modify fun c => { c with ahead := none }
      let script ← read fuel (.list .anyBody .nothing true)
      let token ← match (← get).ahead with
        | some token => pure token
        | none => pure { kind := .finish, start := [] }
      if isOperator token ")" then
        modify fun c => { c with ahead }
        return script
      else unexpected token (some ")")
    let peek := peek inner fuel
    let peekCommand := peekCommand inner fuel 100
    let expect := expect inner fuel
    let skipLines := skipLines inner fuel fuel
    let word (expected : Option String) : Reading Word := do
      let token ← peek
      match token.kind with
      | .word word _ =>
        take
        return word
      | _ => unexpected token expected
    let body : Reading Script := read fuel (.list .body .nothing true)
    match level with
    | .list range before isFirst =>
      if range ≠ .line then skipLines
      let token ← peekCommand
      let isAfterAlias := range ≠ .line && isOperator token "\n"
      if isAfterAlias then read fuel (.list range before isFirst)
      else if token.kind matches .finish then
        return before
      else if range = .line && isOperator token "\n" then
        take
        return before
      else if range ≠ .line && endsList token && !(isFirst && range = .body) then return before
      else
        let own ← read fuel .chain
        let next ← peek
        match next.kind with
        | .operator "&" =>
          take
          read fuel (.list range (before.followedBy (.background own)) false)
        | .operator ";" =>
          take
          read fuel (.list range (before.followedBy own) false)
        | .operator "\n" => read fuel (.list range (before.followedBy own) false)
        | .finish => return before.followedBy own
        | _ => if range = .line then unexpected next none else return before.followedBy own
    | .chain => read fuel (.chainAfter (← read fuel .pipeline))
    | .chainAfter first =>
      match (← peek).kind with
      | .operator "&&" =>
        take
        skipLines
        read fuel (.chainAfter (.both first (← read fuel .pipeline)))
      | .operator "||" =>
        take
        skipLines
        read fuel (.chainAfter (.either first (← read fuel .pipeline)))
      | _ => return first
    | .pipeline =>
      let token ← peekCommand
      if isPlain token "!" then
        take
        if (← isExtended) && isPlain (← peekCommand) "!" then return .negated (← read fuel .pipeline)
        return .negated (← read fuel (.pipelineAfter [← read fuel .command]))
      else if (← isExtended) && isPlain token "time" then
        take
        read fuel .pipeline
      else read fuel (.pipelineAfter [← read fuel .command])
    | .pipelineAfter parts =>
      match (← peek).kind, parts with
      | .operator "|", _ =>
        take
        skipLines
        read fuel (.pipelineAfter (parts ++ [← read fuel .command]))
      | .operator "|&", _ =>
        take
        skipLines
        let line := (← get).line
        let merged := parts.getLast?.map fun part =>
          Script.redirected line part [.mk 2 .duplicate [.text false ['1']]]
        read fuel (.pipelineAfter (parts.dropLast ++ merged.toList ++ [← read fuel .command]))
      | _, [only] => return only
      | _, _ => return .pipeline parts
    | .command =>
      let token ← peekCommand
      let line := (← get).line
      let extended ← isExtended
      let finish (body : Script) : Reading Script := read fuel (.redirectionsAfter line body [])
      let closed (close : String) : Reading Script := do
        let script ← body
        expect close
        return script
      match token.kind with
      | .operator "(" =>
        let start ← get
        let arithmetic : Reading Script := do
          take
          goTo ((← rest).drop 1)
          return .arithmetic line (← expressionInParens inner fuel)
        if extended && start.text.head? == some '(' then
          match arithmetic.run start with
          | .ok (script, cursor) =>
            set cursor
            return ← finish script
          | .error _ => set start
        take
        finish (.subshell (← closed ")"))
      | .word text plain =>
        match plain with
        | some "\x7b" =>
          take
          finish (← closed "\x7d")
        | some "if" =>
          take
          finish (← read fuel .choice)
        | some "while" =>
          take
          let condition ← body
          finish (.loop true condition (← read fuel .loopBody))
        | some "until" =>
          take
          let condition ← body
          finish (.loop false condition (← read fuel .loopBody))
        | some "for" =>
          take
          match extended, skipBlanks (← rest) with
          | true, '(' :: '(' :: after =>
            goTo after
            let expression ← expressionInParens inner fuel
            if isOperator (← peek) ";" then take
            skipLines
            let loop ← read fuel .loopBody
            match splitAtSemicolons expression with
            | [first, second, third] => finish (.counted line first second third loop)
            | _ => refuse (.unexpected "((" none)
          | _, _ =>
            let token ← peek
            match token.kind with
            | .word _ (some name) =>
              if isName name then
                take
                finish (← read fuel (.each line name))
              else refuse (.badVariable name)
            | _ => refuse (.badVariable "")
        | some "case" =>
          take
          let subject ← word (some "word")
          skipLines
          expect "in"
          finish (← read fuel (.branches line subject []))
        | some "function" =>
          if extended then
            take
            let name ← word none
            if isOperator (← peek) "(" then
              take
              expect ")"
            skipLines
            read fuel (.functionBody ((plainText? name).getD ""))
          else read fuel (.simpleAfter line [] [] [])
        | some "[[" =>
          if extended then
            take
            modify fun c => { c with hasGroups := true }
            let condition ← test inner fuel .disjunction
            let next ← testToken inner fuel false
            modify fun c => { c with hasGroups := false }
            if isPlain next "]]" then
              take
              finish (.condition line condition)
            else unexpected next none
          else read fuel (.simpleAfter line [] [] [])
        | _ =>
          if plain.any (keywords (← get).dialect).contains then unexpected token none
          else
            take
            match setting? (← get).dialect text with
            | some setting => read fuel (.simpleAfter line [setting] [] [])
            | none =>
              if isOperator (← peek) "(" then
                take
                if !extended && ((← peek).kind matches .word ..) then refuse (.unexpected "word" (some ")"))
                expect ")"
                let name := plain.getD ""
                let isGood := if extended then !name.isEmpty else isName name && !reservedNames.contains name
                if !isGood then refuse (.badFunctionName name)
                skipLines
                read fuel (.functionBody name)
              else
                let own := if extended then Braces.words text else [text]
                read fuel (.simpleAfter line [] own [])
      | .redirection _ => read fuel (.simpleAfter line [] [] [])
      | _ => unexpected token none
    | .simpleAfter line settings words redirections =>
      let token ← if words.isEmpty then peekCommand else peek
      match token.kind with
      | .word text _ =>
        take
        match words, setting? (← get).dialect text with
        | [], some setting => read fuel (.simpleAfter line (settings ++ [setting]) [] redirections)
        | _, _ =>
          let own := if ← isExtended then Braces.words text else [text]
          read fuel (.simpleAfter line settings (words ++ own) redirections)
      | .redirection redirection =>
        take
        read fuel (.simpleAfter line settings words (redirections ++ [redirection]))
      | _ =>
        if (← isExtended) && isOperator token "(" then unexpected token none
        return .simple line settings words redirections
    | .redirectionsAfter line script redirections =>
      match (← peekCommand).kind with
      | .redirection redirection =>
        take
        read fuel (.redirectionsAfter line script (redirections ++ [redirection]))
      | _ => return if redirections.isEmpty then script else .redirected line script redirections
    | .choice =>
      let condition ← body
      expect "then"
      let yes ← body
      let token ← peek
      if isPlain token "elif" then
        take
        return .choice condition yes (← read fuel .choice)
      else if isPlain token "else" then
        take
        let no ← body
        expect "fi"
        return .choice condition yes no
      else
        expect "fi"
        return .choice condition yes .nothing
    | .loopBody =>
      let token ← peek
      if (← isExtended) && isPlain token "\x7b" then
        take
        let script ← body
        expect "\x7d"
        return script
      else
        expect "do"
        let script ← body
        expect "done"
        return script
    | .each line name =>
      skipLines
      let token ← peek
      let words ←
        if isPlain token "in" then
          take
          let words ← wordsToEnd inner fuel
          let next ← peek
          if isOperator next "\n" || isOperator next ";" then take else unexpected next none
          pure (some words)
        else
          if isOperator token ";" then take
          pure none
      skipLines
      return .each line name words (← read fuel .loopBody)
    | .branches line subject before =>
      skipLines
      let token ← peek
      if isPlain token "esac" then
        take
        return .matching line subject before
      else
        if isOperator token "(" then take
        let patterns ← patterns inner fuel
        let script ← read fuel (.list .anyBody .nothing true)
        let next ← peek
        let goOn (goesOn looksOn : Bool) : Reading Script := do
          take
          read fuel (.branches line subject (before ++ [.mk patterns script goesOn looksOn]))
        match next.kind with
        | .operator ";;" => goOn false false
        | .operator ";&" => goOn true false
        | .operator ";;&" => goOn false true
        | _ =>
          if isPlain next "esac" then
            take
            return .matching line subject (before ++ [.mk patterns script false false])
          else unexpected next (some ";;")
    | .functionBody name => return .function name (← read fuel .command)

end Reading

/-- The fuel for reading a text. -/
def readingFuel (text : List Char) : Nat :=
  16 * text.length + 64

/-- Reads the commands of one line, and answers what comes after it; nothing if the text is at its end. -/
def readLine (start : Cursor) : Except SyntaxError (Option (Script × Cursor)) :=
  if (Reading.skipBlanks start.text).isEmpty then .ok none
  else
    ((Reading.read (readingFuel start.text) (.list .line .nothing true)).run start).map some

/-- What is wrong with a text that is no script. -/
def SyntaxFault.message : SyntaxFault → String
  | .unexpected found none => found ++ " unexpected"
  | .unexpected found (some expected) =>
    found ++ " unexpected (expecting " ++ (if expected = "word" then expected else "\"" ++ expected ++ "\"") ++ ")"
  | .badVariable _ => "Bad for loop variable"
  | .badFunctionName _ => "Bad function name"
  | .badDescriptor => "Bad fd number"
  | .unclosed "\x7b" => "Missing '\x7d'"
  | .unclosed "((" => "Missing '))'"
  | .unclosed "\x60" => "EOF in backquote substitution"
  | .unclosed _ => "Unterminated quoted string"

end Script

end BatchJob.Machine
