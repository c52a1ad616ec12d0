import BatchJob.Text.Utf8

/-!
# UTF-8 is read as it is written

One character is taken off the front of some bytes exactly if they begin with its encoding (`takeChar_encode`,
`eq_of_takeChar`): the first byte tells how many follow, and the ranges for the second byte leave out what no character
is written as, that is, forms that are too long, surrogates, and numbers past the last character. So the bytes that are
read as a text are the encoding of this text, and no others (`decode?_eq_some_iff`), which is what the standard library
takes for UTF-8 (`fromUTF8?_eq`).
-/

namespace BatchJob.Text

/-! ## Classes of bytes -/

section Classes

variable {first b : UInt8}

theorem encodedWidth_eq (first : UInt8) : encodedWidth first =
    if first.toNat < 128 then 1
    else if 194 ≤ first.toNat ∧ first.toNat ≤ 223 then 2
    else if 224 ≤ first.toNat ∧ first.toNat ≤ 239 then 3
    else if 240 ≤ first.toNat ∧ first.toNat ≤ 244 then 4
    else 0 := by
  unfold encodedWidth
  simp only [UInt8.lt_iff_toNat_lt, UInt8.le_iff_toNat_le, UInt8.reduceToNat, Bool.and_eq_true, decide_eq_true_eq]

theorem encodedWidth_one : encodedWidth first = 1 ↔ first.toNat < 128 := by
  rw [encodedWidth_eq]
  grind

theorem encodedWidth_two : encodedWidth first = 2 ↔ 194 ≤ first.toNat ∧ first.toNat ≤ 223 := by
  rw [encodedWidth_eq]
  grind

theorem encodedWidth_three : encodedWidth first = 3 ↔ 224 ≤ first.toNat ∧ first.toNat ≤ 239 := by
  rw [encodedWidth_eq]
  grind

theorem encodedWidth_four : encodedWidth first = 4 ↔ 240 ≤ first.toNat ∧ first.toNat ≤ 244 := by
  rw [encodedWidth_eq]
  grind

theorem isContinuation_iff : isContinuation b = true ↔ 128 ≤ b.toNat ∧ b.toNat ≤ 191 := by
  unfold isContinuation
  simp only [UInt8.le_iff_toNat_le, UInt8.reduceToNat, Bool.and_eq_true, decide_eq_true_eq]

/-- A second byte continues a character, and four first bytes narrow its range. -/
theorem isSecondByte_iff : isSecondByte first b = true ↔
    (128 ≤ b.toNat ∧ b.toNat ≤ 191) ∧ (first.toNat = 224 → 160 ≤ b.toNat) ∧ (first.toNat = 237 → b.toNat ≤ 159) ∧
      (first.toNat = 240 → 144 ≤ b.toNat) ∧ (first.toNat = 244 → b.toNat ≤ 143) := by
  unfold isSecondByte secondByteRange
  simp only [beq_iff_eq, ← UInt8.toNat_inj, UInt8.reduceToNat]
  split
  next => simp [UInt8.le_iff_toNat_le]; omega
  next =>
    split
    next => simp [UInt8.le_iff_toNat_le]; omega
    next =>
      split
      next => simp [UInt8.le_iff_toNat_le]; omega
      next =>
        split
        next => simp [UInt8.le_iff_toNat_le]; omega
        next => simp [UInt8.le_iff_toNat_le]; omega

end Classes

/-! ## One character -/

/-- A byte that is written from a number. -/
theorem ofNat_eq {n : Nat} {b : UInt8} (h : n = b.toNat) : UInt8.ofNat n = b := by
  rw [h]
  exact UInt8.ofNat_toNat

theorem toNat_ofNat {n : Nat} (h : n < 256) : (UInt8.ofNat n).toNat = n := by
  rw [UInt8.toNat_ofNat']
  exact Nat.mod_eq_of_lt h

/-- The number of a character that is made from it, if there is such a character. -/
theorem toNat_charOfNat {n : Nat} (h : n < 0xD800 ∨ (0xDFFF < n ∧ n < 0x110000)) : (Char.ofNat n).val.toNat = n := by
  have hvalid : n.isValidChar := h
  unfold Char.ofNat
  rw [dif_pos hvalid]
  rfl

section Encoding

variable {first b c d : UInt8}

theorem encode_one (hfirst : first.toNat < 128) : String.utf8EncodeChar (Char.ofNat first.toNat) = [first] := by
  unfold String.utf8EncodeChar
  simp only [toNat_charOfNat (.inl (by omega : first.toNat < 0xD800))]
  rw [if_pos (by omega), ofNat_eq rfl]

theorem encode_two (hfirst : 194 ≤ first.toNat ∧ first.toNat ≤ 223) (hb : 128 ≤ b.toNat ∧ b.toNat ≤ 191) :
    String.utf8EncodeChar (Char.ofNat (first.toNat % 32 * 64 + continuationBits b)) = [first, b] := by
  unfold continuationBits
  generalize hn : first.toNat % 32 * 64 + b.toNat % 64 = n
  unfold String.utf8EncodeChar
  simp only [toNat_charOfNat (.inl (by omega : n < 0xD800))]
  rw [if_neg (by omega), if_pos (by omega), ofNat_eq (by omega : n / 64 % 32 + 192 = first.toNat),
    ofNat_eq (by omega : n % 64 + 128 = b.toNat)]

theorem encode_three (hfirst : 224 ≤ first.toNat ∧ first.toNat ≤ 239) (hb : isSecondByte first b = true)
    (hc : isContinuation c = true) :
    String.utf8EncodeChar
      (Char.ofNat ((first.toNat % 16 * 64 + continuationBits b) * 64 + continuationBits c)) = [first, b, c] := by
  rw [isSecondByte_iff] at hb
  rw [isContinuation_iff] at hc
  unfold continuationBits
  generalize hn : (first.toNat % 16 * 64 + b.toNat % 64) * 64 + c.toNat % 64 = n
  have hvalid : n < 0xD800 ∨ (0xDFFF < n ∧ n < 0x110000) := by omega
  unfold String.utf8EncodeChar
  simp only [toNat_charOfNat hvalid]
  rw [if_neg (by omega), if_neg (by omega), if_pos (by omega),
    ofNat_eq (by omega : n / 4096 % 16 + 224 = first.toNat), ofNat_eq (by omega : n / 64 % 64 + 128 = b.toNat),
    ofNat_eq (by omega : n % 64 + 128 = c.toNat)]

theorem encode_four (hfirst : 240 ≤ first.toNat ∧ first.toNat ≤ 244) (hb : isSecondByte first b = true)
    (hc : isContinuation c = true) (hd : isContinuation d = true) :
    String.utf8EncodeChar
      (Char.ofNat (((first.toNat % 8 * 64 + continuationBits b) * 64 + continuationBits c) * 64 +
        continuationBits d)) = [first, b, c, d] := by
  rw [isSecondByte_iff] at hb
  rw [isContinuation_iff] at hc hd
  unfold continuationBits
  generalize hn : ((first.toNat % 8 * 64 + b.toNat % 64) * 64 + c.toNat % 64) * 64 + d.toNat % 64 = n
  have hvalid : n < 0xD800 ∨ (0xDFFF < n ∧ n < 0x110000) := by omega
  unfold String.utf8EncodeChar
  simp only [toNat_charOfNat hvalid]
  rw [if_neg (by omega), if_neg (by omega), if_neg (by omega),
    ofNat_eq (by omega : n / 262144 % 8 + 240 = first.toNat), ofNat_eq (by omega : n / 4096 % 64 + 128 = b.toNat),
    ofNat_eq (by omega : n / 64 % 64 + 128 = c.toNat), ofNat_eq (by omega : n % 64 + 128 = d.toNat)]

end Encoding

/-! ## Taking a character -/

section Taking

variable {first : UInt8} {rest after : List UInt8} {char : Char}

/-- A character that is taken is what the bytes begin with. -/
theorem eq_of_takeChar (h : takeChar first rest = (some char, after)) :
    first :: rest = String.utf8EncodeChar char ++ after := by
  revert h
  fun_cases takeChar first rest with
  | case1 _ hwidth =>
    rintro ⟨⟩
    rw [encode_one (encodedWidth_one.mp hwidth)]
    rfl
  | case2 b rest₁ hwidth hb =>
    rintro ⟨⟩
    rw [encode_two (encodedWidth_two.mp hwidth) (isSecondByte_iff.mp hb).1]
    rfl
  | case4 b hwidth hb c rest₂ hc =>
    rintro ⟨⟩
    rw [encode_three (encodedWidth_three.mp hwidth) hb hc]
    rfl
  | case8 b hwidth hb c hc d rest₃ hd =>
    rintro ⟨⟩
    rw [encode_four (encodedWidth_four.mp hwidth) hb hc hd]
    rfl
  | _ => rintro ⟨⟩

/-- Every character is taken off its encoding. -/
theorem takeChar_encode (char : Char) (rest : List UInt8) :
    ∃ first more, String.utf8EncodeChar char = first :: more ∧ takeChar first (more ++ rest) = (some char, rest) := by
  have hvalid : char.val.toNat < 0xD800 ∨ (0xDFFF < char.val.toNat ∧ char.val.toNat < 0x110000) := char.valid
  have hchar {n : Nat} (h : n = char.val.toNat) : Char.ofNat n = char := by
    rw [h]
    exact Char.ofNat_toNat char
  unfold String.utf8EncodeChar
  simp only
  generalize char.val.toNat = n at hvalid hchar
  split
  next hone =>
    have hfirst : (UInt8.ofNat n).toNat = n := toNat_ofNat (by omega)
    have hwidth : encodedWidth (UInt8.ofNat n) = 1 := encodedWidth_one.mpr (by omega)
    refine ⟨_, [], rfl, ?_⟩
    simp only [takeChar, hwidth]
    rw [hchar hfirst]
    rfl
  next =>
    split
    next htwo =>
      have hfirst : (UInt8.ofNat (n / 64 % 32 + 192)).toNat = n / 64 % 32 + 192 := toNat_ofNat (by omega)
      have hb : (UInt8.ofNat (n % 64 + 128)).toNat = n % 64 + 128 := toNat_ofNat (by omega)
      generalize UInt8.ofNat (n / 64 % 32 + 192) = first at hfirst
      generalize UInt8.ofNat (n % 64 + 128) = b at hb
      have hwidth : encodedWidth first = 2 := encodedWidth_two.mpr (by omega)
      have hsecond : isSecondByte first b = true := isSecondByte_iff.mpr (by omega)
      refine ⟨_, [b], rfl, ?_⟩
      simp only [takeChar, List.cons_append, List.nil_append, hwidth, hsecond, if_true]
      rw [hchar (by unfold continuationBits; omega)]
    next =>
      split
      next hthree =>
        have hfirst : (UInt8.ofNat (n / 4096 % 16 + 224)).toNat = n / 4096 % 16 + 224 := toNat_ofNat (by omega)
        have hb : (UInt8.ofNat (n / 64 % 64 + 128)).toNat = n / 64 % 64 + 128 := toNat_ofNat (by omega)
        have hc : (UInt8.ofNat (n % 64 + 128)).toNat = n % 64 + 128 := toNat_ofNat (by omega)
        generalize UInt8.ofNat (n / 4096 % 16 + 224) = first at hfirst
        generalize UInt8.ofNat (n / 64 % 64 + 128) = b at hb
        generalize UInt8.ofNat (n % 64 + 128) = c at hc
        have hwidth : encodedWidth first = 3 := encodedWidth_three.mpr (by omega)
        have hsecond : isSecondByte first b = true := isSecondByte_iff.mpr (by omega)
        have hthird : isContinuation c = true := isContinuation_iff.mpr (by omega)
        refine ⟨_, [b, c], rfl, ?_⟩
        simp only [takeChar, List.cons_append, List.nil_append, hwidth, hsecond, hthird, if_true]
        rw [hchar (by unfold continuationBits; omega)]
      next =>
        have hfirst : (UInt8.ofNat (n / 262144 % 8 + 240)).toNat = n / 262144 % 8 + 240 := toNat_ofNat (by omega)
        have hb : (UInt8.ofNat (n / 4096 % 64 + 128)).toNat = n / 4096 % 64 + 128 := toNat_ofNat (by omega)
        have hc : (UInt8.ofNat (n / 64 % 64 + 128)).toNat = n / 64 % 64 + 128 := toNat_ofNat (by omega)
        have hd : (UInt8.ofNat (n % 64 + 128)).toNat = n % 64 + 128 := toNat_ofNat (by omega)
        generalize UInt8.ofNat (n / 262144 % 8 + 240) = first at hfirst
        generalize UInt8.ofNat (n / 4096 % 64 + 128) = b at hb
        generalize UInt8.ofNat (n / 64 % 64 + 128) = c at hc
        generalize UInt8.ofNat (n % 64 + 128) = d at hd
        have hwidth : encodedWidth first = 4 := encodedWidth_four.mpr (by omega)
        have hsecond : isSecondByte first b = true := isSecondByte_iff.mpr (by omega)
        have hthird : isContinuation c = true := isContinuation_iff.mpr (by omega)
        have hfourth : isContinuation d = true := isContinuation_iff.mpr (by omega)
        refine ⟨_, [b, c, d], rfl, ?_⟩
        simp only [takeChar, List.cons_append, List.nil_append, hwidth, hsecond, hthird, hfourth, if_true]
        rw [hchar (by unfold continuationBits; omega)]

end Taking

/-! ## A text -/

theorem encode_cons (char : Char) (text : List Char) : encode (char :: text) = String.utf8EncodeChar char ++ encode text :=
  List.flatMap_cons

/-- A text is read back from its encoding. -/
theorem decode?_encode (text : List Char) : decode? (encode text) = some text := by
  induction text with
  | nil => rw [encode, List.flatMap_nil, decode?]
  | cons char text ih =>
    obtain ⟨first, more, hencode, htake⟩ := takeChar_encode char (encode text)
    rw [encode_cons, hencode, List.cons_append, decode?]
    simp only [htake, ih]
    rfl

/-- So it is where nothing is refused. -/
theorem decodeLossy_encode (text : List Char) : decodeLossy (encode text) = text := by
  induction text with
  | nil => rw [encode, List.flatMap_nil, decodeLossy]
  | cons char text ih =>
    obtain ⟨first, more, hencode, htake⟩ := takeChar_encode char (encode text)
    rw [encode_cons, hencode, List.cons_append, decodeLossy]
    simp only [htake, ih]
    rfl

/-- **The bytes that are read as a text are its encoding.** -/
theorem decode?_eq_some_iff {bytes : List UInt8} {text : List Char} :
    decode? bytes = some text ↔ bytes = encode text := by
  constructor
  · intro h
    fun_induction decode? bytes generalizing text with
    | case1 =>
      cases h
      rfl
    | case2 first rest taken char htaken =>
      rename_i ih
      obtain ⟨more, hmore, rfl⟩ := Option.map_eq_some_iff.mp h
      rw [encode_cons, ← ih hmore]
      exact eq_of_takeChar (Prod.ext htaken rfl)
    | case3 => cases h
  · rintro rfl
    exact decode?_encode text

/-- **Reading a text is what the standard library does.** -/
theorem fromUTF8?_eq (bytes : List UInt8) :
    String.fromUTF8? bytes.toByteArray = (decode? bytes).map String.ofList := by
  unfold String.fromUTF8?
  cases hdecode : decode? bytes with
  | some text =>
    obtain rfl := decode?_eq_some_iff.mp hdecode
    have hvalid : (encode text).toByteArray.IsValidUTF8 := ⟨text, rfl⟩
    rw [dif_pos hvalid]
    rfl
  | none =>
    refine dif_neg fun ⟨text, htext⟩ => ?_
    have hbytes : bytes = encode text := by
      have hlists := congrArg (fun array : ByteArray => array.data.toList) htext
      rwa [List.toList_data_toByteArray, List.utf8Encode, List.toList_data_toByteArray] at hlists
    rw [hbytes, decode?_encode] at hdecode
    cases hdecode

end BatchJob.Text
