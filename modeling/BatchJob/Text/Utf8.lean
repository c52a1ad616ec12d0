/-!
# UTF-8

Reading text from bytes, in two ways. `decode?` refuses a byte string that is not UTF-8; `decodeLossy`
puts U+FFFD in the place of each maximal run of bytes that starts a character and does not complete it.
Both take one character at a time with `takeChar`, whose rest is never longer than what it was given.
-/

namespace BatchJob.Text

/-- Whether a byte continues a character that an earlier byte began. -/
def isContinuation (b : UInt8) : Bool :=
  0x80 ≤ b && b ≤ 0xBF

/-- The bytes that may come second after a given first byte of a character of more than one byte; the
range excludes overlong forms, surrogates and code points past U+10FFFF. -/
def secondByteRange (first : UInt8) : UInt8 × UInt8 :=
  if first == 0xE0 then (0xA0, 0xBF)
  else if first == 0xED then (0x80, 0x9F)
  else if first == 0xF0 then (0x90, 0xBF)
  else if first == 0xF4 then (0x80, 0x8F)
  else (0x80, 0xBF)

/-- Whether a byte may come second after the byte `first`. -/
def isSecondByte (first b : UInt8) : Bool :=
  (secondByteRange first).1 ≤ b && b ≤ (secondByteRange first).2

/-- How many bytes a character has that starts with this byte; zero when no character does. -/
def encodedWidth (first : UInt8) : Nat :=
  if first < 0x80 then 1
  else if 0xC2 ≤ first && first ≤ 0xDF then 2
  else if 0xE0 ≤ first && first ≤ 0xEF then 3
  else if 0xF0 ≤ first && first ≤ 0xF4 then 4
  else 0

/-- The low six bits of a continuation byte. -/
def continuationBits (b : UInt8) : Nat :=
  b.toNat % 64

/-- Takes the character that starts with the byte `first`, followed by `rest`. Without one, it takes the
longest start of a character there is, at least the one byte, and answers no character. -/
def takeChar (first : UInt8) (rest : List UInt8) : Option Char × List UInt8 :=
  match encodedWidth first, rest with
  | 1, _ => (some (Char.ofNat first.toNat), rest)
  | 2, b :: rest₁ =>
    if isSecondByte first b then (some (Char.ofNat (first.toNat % 32 * 64 + continuationBits b)), rest₁)
    else (none, rest)
  | 3, b :: rest₁ =>
    if isSecondByte first b then
      match rest₁ with
      | c :: rest₂ =>
        if isContinuation c then
          (some (Char.ofNat
            ((first.toNat % 16 * 64 + continuationBits b) * 64 + continuationBits c)), rest₂)
        else (none, rest₁)
      | [] => (none, [])
    else (none, rest)
  | 4, b :: rest₁ =>
    if isSecondByte first b then
      match rest₁ with
      | c :: rest₂ =>
        if isContinuation c then
          match rest₂ with
          | d :: rest₃ =>
            if isContinuation d then
              (some (Char.ofNat
                (((first.toNat % 8 * 64 + continuationBits b) * 64 + continuationBits c) * 64 +
                  continuationBits d)), rest₃)
            else (none, rest₂)
          | [] => (none, [])
        else (none, rest₁)
      | [] => (none, [])
    else (none, rest)
  | _, _ => (none, rest)

theorem length_takeChar_le (first : UInt8) (rest : List UInt8) :
    (takeChar first rest).2.length ≤ rest.length := by
  unfold takeChar
  repeat' split
  all_goals simp only [List.length_cons, List.length_nil]
  all_goals omega

/-- The text that a byte string encodes, if it is UTF-8. -/
def decode? : List UInt8 → Option (List Char)
  | [] => some []
  | first :: rest =>
    let taken := takeChar first rest
    match taken.1 with
    | some c => (decode? taken.2).map (c :: ·)
    | none => none
termination_by bytes => bytes.length
decreasing_by
  exact Nat.lt_succ_of_le (length_takeChar_le first rest)

/-- The text of a byte string, with U+FFFD for each part that no character has. -/
def decodeLossy : List UInt8 → List Char
  | [] => []
  | first :: rest =>
    let taken := takeChar first rest
    taken.1.getD '\uFFFD' :: decodeLossy taken.2
termination_by bytes => bytes.length
decreasing_by
  exact Nat.lt_succ_of_le (length_takeChar_le first rest)

/-- The UTF-8 bytes of a text. -/
def encode (text : List Char) : List UInt8 :=
  text.flatMap String.utf8EncodeChar

end BatchJob.Text
