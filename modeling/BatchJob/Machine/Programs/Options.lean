/-!
# Options of programs

How the programs of the system read their arguments. Options are letters after a hyphen, or words after two, and may
stand between the operands up to an argument of two hyphens. A word may be shortened as long as it is clear which one
is meant; a value follows a letter directly or is the next argument, and follows a word after an equals sign or is the
next argument.
-/

namespace BatchJob.Machine.Programs

/-- Whether an option has a value. -/
inductive Need
  | nothing
  | optional
  | required
  deriving DecidableEq, Repr

/-- An option that a program knows, by its letters and its words. It goes by the first of them. -/
structure Known where
  names : List String
  need : Need
  deriving DecidableEq, Repr

/-- An option without a value, by its names between blanks. -/
def flag (names : String) : Known :=
  ⟨names.splitOn " ", .nothing⟩

/-- An option with a value. -/
def valued (names : String) : Known :=
  ⟨names.splitOn " ", .required⟩

/-- An option that may have a value, which then follows it directly. -/
def maybeValued (names : String) : Known :=
  ⟨names.splitOn " ", .optional⟩

/-- The options of a program that were given, each with its value. -/
abbrev Options := List (String × String)

namespace Options

/-- Whether an option was given. -/
def has (options : Options) (name : String) : Bool :=
  (options.lookup name).isSome

/-- The value that an option was given last. -/
def value? (options : Options) (name : String) : Option String :=
  options.reverse.lookup name

/-- Which of some options was given last. -/
def last? (options : Options) (names : List String) : Option String :=
  ((options.map Prod.fst).filter names.contains).getLast?

end Options

/-- Why arguments cannot be read. -/
inductive OptionFault
  | unknownLetter (letter : Char)
  | unknownWord (word : String)
  | missingValueOfLetter (letter : Char)
  | missingValueOfWord (word : String)
  | needlessValue (word : String)
  | ambiguous (word : String) (meant : List String)
  deriving DecidableEq, Repr

/-- What is said of arguments that cannot be read. -/
def OptionFault.message : OptionFault → String
  | .unknownLetter letter => "invalid option -- '" ++ String.singleton letter ++ "'"
  | .unknownWord word => "unrecognized option '--" ++ word ++ "'"
  | .missingValueOfLetter letter => "option requires an argument -- '" ++ String.singleton letter ++ "'"
  | .missingValueOfWord word => "option '--" ++ word ++ "' requires an argument"
  | .needlessValue word => "option '--" ++ word ++ "' doesn't allow an argument"
  | .ambiguous word meant =>
    "option '--" ++ word ++ "' is ambiguous; possibilities:" ++ String.join (meant.map fun name => " '--" ++ name ++ "'")

namespace Known

/-- What an option goes by. -/
def key (known : Known) : String :=
  known.names.headD ""

/-- The words of an option. -/
def words (known : Known) : List String :=
  known.names.filter (1 < ·.length)

end Known

/-- The option with a letter. -/
def withLetter? (known : List Known) (letter : Char) : Option Known :=
  known.find? (·.names.contains (String.singleton letter))

/-- The option that a word means, with its full word. -/
def withWord (known : List Known) (word : String) : Except OptionFault (Known × String) :=
  let all := known.flatMap fun option => option.words.map (option, ·)
  match all.find? (·.2 = word), all.filter (·.2.startsWith word) with
  | some found, _ => .ok found
  | none, [] => .error (.unknownWord word)
  | none, first :: others =>
    if others.all (·.1 = first.1) then .ok first
    else .error (.ambiguous word ((first :: others).map Prod.snd))

/-- The options in the letters of an argument, and the one whose value has to be the next argument. -/
def readLetters (known : List Known) : List Char → Except OptionFault (Options × Option Char)
  | [] => .ok ([], none)
  | letter :: rest =>
    match withLetter? known letter with
    | none => .error (.unknownLetter letter)
    | some option =>
      match option.need with
      | .nothing => (readLetters known rest).map fun (options, open?) => ((option.key, "") :: options, open?)
      | .optional => .ok ([(option.key, String.ofList rest)], none)
      | .required => if rest.isEmpty then .ok ([], some letter) else .ok ([(option.key, String.ofList rest)], none)

/-- The option in a word, with its value if that is part of the word, and the full word if its value has to be the next
argument. -/
def readWord (known : List Known) (text : List Char) : Except OptionFault (String × String × Option String) := do
  let name := text.takeWhile (· != '=')
  let value := text.drop (name.length + 1)
  let hasValue := name.length < text.length
  match withWord known (String.ofList name) with
  | .error (.unknownWord _) => .error (.unknownWord (String.ofList text))
  | .error e => .error e
  | .ok (option, word) =>
    if option.need = .nothing && hasValue then .error (.needlessValue word)
    else if option.need = .required && !hasValue then .ok (option.key, "", some word)
    else .ok (option.key, String.ofList value, none)

/-- The options and the operands among arguments. If they do not mix, the first operand is followed by operands only. -/
def readArguments (known : List Known) (mixes : Bool) :
    List String → Except OptionFault (Options × List String)
  | [] => .ok ([], [])
  | "--" :: rest => .ok ([], rest)
  | argument :: rest =>
    match argument.toList, rest with
    | '-' :: '-' :: text, rest =>
      match readWord known text, rest with
      | .error e, _ => .error e
      | .ok (key, value, none), rest =>
        (readArguments known mixes rest).map fun (options, operands) => ((key, value) :: options, operands)
      | .ok (_, _, some word), [] => .error (.missingValueOfWord word)
      | .ok (key, _, some _), value :: rest =>
        (readArguments known mixes rest).map fun (options, operands) => ((key, value) :: options, operands)
    | '-' :: letter :: letters, rest =>
      match readLetters known (letter :: letters), rest with
      | .error e, _ => .error e
      | .ok (found, none), rest =>
        (readArguments known mixes rest).map fun (options, operands) => (found ++ options, operands)
      | .ok (_, some open?), [] => .error (.missingValueOfLetter open?)
      | .ok (found, some open?), value :: rest =>
        let key := ((withLetter? known open?).map Known.key).getD ""
        (readArguments known mixes rest).map fun (options, operands) => (found ++ (key, value) :: options, operands)
    | _, rest =>
      if mixes then (readArguments known mixes rest).map fun (options, operands) => (options, argument :: operands)
      else .ok ([], argument :: rest)

end BatchJob.Machine.Programs
