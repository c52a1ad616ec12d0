import BatchJob.Text.Blank
import BatchJob.Text.Lines

/-!
# The child's environment

An environment is a list of entries in the order in which they were applied; where a key repeats, the last
entry wins. It is layered from the static defaults, the account's home directory, the lines of the STDENV
dataset, and the default sharing policy unless STDENV sets it.
-/

namespace BatchJob

/-- The invoking account as the user registry records it. -/
structure Account where
  name : String
  home : String
  shell : String
  deriving DecidableEq, Repr

/-- The entries of an environment in the order in which they were applied. -/
structure Environment where
  entries : List String
  deriving DecidableEq, Repr

namespace Environment

/-- The key of the policy that says whether the child shares the address space. -/
def sharingKey : String := "_BPX_SHAREAS"

/-- The entry that sets the policy when STDENV does not. -/
def sharingDefault : String := "_BPX_SHAREAS=MUST"

/-- The entries that every child's environment starts from. -/
def defaults : List String :=
  ["LIBPATH=/lib:/usr/lib", "PATH=/bin:/usr/bin", "_BPXK_AUTOCVT=ON", "_BPXK_JOBLOG=STDERR",
    "_BPX_SPAWN_SCRIPT=YES", "_EDC_ADD_ERRNO2=1"]

/-- The key and the value of an entry, parted at its first equals sign; an entry without one, or with
nothing before it, is not well formed. -/
def keyValue? (entry : String) : Option (String × String) :=
  match Text.splitAtFirst (· == '=') entry.toList with
  | ([], _) => none
  | (_, none) => none
  | (key, some value) => some (String.ofList key, String.ofList value)

/-- The effective value of a key: that of the last well-formed entry with this key. -/
def get? (env : Environment) (key : String) : Option String :=
  env.entries.reverse.findSome? fun entry =>
    match keyValue? entry with
    | some (k, v) => if k = key then some v else none
    | none => none

/-- Sets the value of a key in a list of pairs: in place when the key is there, else at the end. -/
def setPair (pairs : List (String × String)) (key value : String) : List (String × String) :=
  match pairs with
  | [] => [(key, value)]
  | (k, v) :: rest => if k = key then (k, value) :: rest else (k, v) :: setPair rest key value

/-- The effective pairs, one for each key, in the order in which the keys first appear. -/
def pairs (env : Environment) : List (String × String) :=
  (env.entries.filterMap keyValue?).foldl (fun pairs (k, v) => setPair pairs k v) []

/-- The entries that are not well formed and so have no effect. -/
def malformed (env : Environment) : List String :=
  env.entries.filter fun entry => (keyValue? entry).isNone

/-- Whether the child shares the address space: always, unless the policy says no. -/
def sharesAddressSpace (env : Environment) : Bool :=
  match env.get? sharingKey with
  | some value => value.toList.map Text.upperAscii != ['N', 'O']
  | none => true

/-- Whether a character may stand before an entry in a line of STDENV and is dropped. -/
def isIndent (c : Char) : Bool :=
  c == ' ' || c == '\t' || c == '\n'

/-- The entry in a line of STDENV; a blank line and a comment have none. -/
def entryOfLine? (line : List Char) : Option (List Char) :=
  match line.dropWhile isIndent with
  | [] => none
  | '#' :: _ => none
  | entry => some entry

/-- The entries in the text of STDENV. -/
def entriesOfText (text : String) : List String :=
  ((Text.lines text.toList).filterMap entryOfLine?).map String.ofList

/-- Whether an entry sets the sharing policy. -/
def setsSharing (entry : String) : Bool :=
  (sharingKey.toList ++ ['=']).isPrefixOf entry.toList

/-- The environment of an account with the text of STDENV, if there is one. -/
def build (account : Account) (stdenv : Option String) : Environment :=
  let overrides := entriesOfText (stdenv.getD "")
  ⟨defaults ++ ["HOME=" ++ account.home, "PWD=" ++ account.home] ++ overrides ++
    (if overrides.any setsSharing then [] else [sharingDefault])⟩

end Environment

end BatchJob
