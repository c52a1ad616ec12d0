import BatchJob.Machine.Shell.Arithmetic

/-!
# Arithmetic of the shell stays within 64 bits

Sums, differences and products are those of words of 64 bits (`wraps_around`), and every operator makes a word of two
words (`isWord_apply`). So whatever an expression is, and whatever the variables hold that it goes by, its value is a
word (`isWord_evaluate`, `isWord_valueOf`).
-/

namespace BatchJob.Machine.Arithmetic

variable {a b v : Int}

/-- A value that 64 bits can hold. -/
def IsWord (v : Int) : Prop :=
  -((greatest : Int) + 1) ≤ v ∧ v ≤ greatest

theorem isWord_iff : IsWord v ↔ -9223372036854775808 ≤ v ∧ v ≤ 9223372036854775807 :=
  Iff.rfl

theorem isWord_toInt (w : BitVec 64) : IsWord w.toInt := by
  have hlow := w.le_toInt
  have hhigh := w.toInt_lt
  rw [isWord_iff]
  omega

/-! ## Operators -/

/-- Wrapping is reading the word that holds a value. -/
theorem wrap_eq (v : Int) : wrap v = (BitVec.ofInt 64 v).toInt := by
  rw [BitVec.toInt_ofInt]
  rfl

theorem isWord_wrap (v : Int) : IsWord (wrap v) := by
  rw [wrap_eq]
  exact isWord_toInt _

/-- **Sums, differences and products are those of words.** -/
theorem wraps_around (a b : Int) :
    apply .plus a b = .ok (BitVec.ofInt 64 a + BitVec.ofInt 64 b).toInt ∧
      apply .minus a b = .ok (BitVec.ofInt 64 a - BitVec.ofInt 64 b).toInt ∧
      apply .times a b = .ok (BitVec.ofInt 64 a * BitVec.ofInt 64 b).toInt := by
  refine ⟨?_, ?_, ?_⟩
  · rw [← BitVec.ofInt_add, ← wrap_eq]
    rfl
  · rw [BitVec.sub_eq_add_neg, ← BitVec.ofInt_neg, ← BitVec.ofInt_add, ← Int.sub_eq_add_neg, ← wrap_eq]
    rfl
  · rw [← BitVec.ofInt_mul, ← wrap_eq]
    rfl

theorem isWord_ofBool (b : Bool) : IsWord (ofBool b) := by
  rw [isWord_iff]
  cases b <;> decide

theorem isWord_powerOf (fuel : Nat) (base : Int) (exponent : Nat) : IsWord (powerOf fuel base exponent) := by
  induction fuel generalizing base exponent with
  | zero => exact isWord_ofBool true
  | succ fuel ih =>
    unfold powerOf
    split
    next => exact isWord_ofBool true
    next =>
      simp only
      split
      next => exact isWord_wrap _
      next => exact ih _ _

/-- A shift to the right leaves no more of a value. -/
theorem isWord_shiftRight (ha : IsWord a) (n : Nat) : IsWord (a / Int.pow 2 n) := by
  have hpos : 0 < Int.pow 2 n := Int.pow_pos (by decide)
  rw [isWord_iff] at ha ⊢
  rcases Int.le_total 0 a with hsign | hsign
  · have hnonneg := Int.ediv_nonneg hsign (Int.le_of_lt hpos)
    have hle := Int.ediv_le_self (Int.pow 2 n) hsign
    omega
  · have hnonpos : a / Int.pow 2 n < 1 := Int.ediv_lt_of_lt_mul hpos (by omega)
    have hmore : a * Int.pow 2 n ≤ a * 1 := Int.mul_le_mul_of_nonpos_left hsign hpos
    have hle : a ≤ a / Int.pow 2 n := Int.le_ediv_of_mul_le hpos (by omega)
    omega

/-- A remainder is between zero and the value that was divided. -/
theorem isWord_tmod (ha : IsWord a) (b : Int) : IsWord (Int.tmod a b) := by
  have hsize := Int.natAbs_tmod a b
  have hle := Nat.mod_le a.natAbs b.natAbs
  have hsign : 0 ≤ a → 0 ≤ Int.tmod a b := Int.tmod_nonneg b
  have hneg : Int.tmod (-a) b = -Int.tmod a b := Int.neg_tmod a b
  have hsign' : 0 ≤ -a → 0 ≤ Int.tmod (-a) b := Int.tmod_nonneg b
  rw [isWord_iff] at ha ⊢
  omega

/-- **An operator makes a word of words.** -/
theorem isWord_apply {operator : ArithmeticOperator} (ha : IsWord a) (hb : IsWord b)
    (h : apply operator a b = .ok v) : IsWord v := by
  cases operator with
  | either | both | equal | unequal | atMost | atLeast | below | above =>
    cases h
    exact isWord_ofBool _
  | bitOr | bitXor | bitAnd =>
    cases h
    exact isWord_toInt _
  | shiftLeft | plus | minus | times =>
    cases h
    exact isWord_wrap _
  | shiftRight =>
    cases h
    exact isWord_shiftRight ha _
  | modulo =>
    unfold apply at h
    simp only at h
    split at h
    next => cases h
    next =>
      cases h
      exact isWord_tmod ha b
  | power =>
    unfold apply at h
    simp only at h
    split at h
    next => cases h
    next =>
      cases h
      exact isWord_powerOf _ _ _
  | after =>
    cases h
    exact hb
  | _ =>
    -- what is left is the quotient
    unfold apply at h
    simp only at h
    split at h
    next => cases h
    next =>
      cases h
      exact isWord_wrap _

/-! ## Expressions -/

theorem isWord_signed {isNegative : Bool} {n : Nat}
    (h : (if isNegative then (if n ≤ greatest + 1 then some (-(n : Int)) else none)
      else if n ≤ greatest then some (n : Int) else none) = some v) : IsWord v := by
  have hgreatest : greatest = 9223372036854775807 := rfl
  rw [isWord_iff]
  split at h
  next =>
    split at h
    next hn =>
      cases h
      omega
    next => cases h
  next =>
    split at h
    next hn =>
      cases h
      omega
    next => cases h

/-- A text that is a number is a word. -/
theorem isWord_integer? {text : String} (h : integer? text = some v) : IsWord v := by
  unfold integer? at h
  simp only at h
  split at h
  next =>
    split at h
    next => cases h
    next => exact isWord_signed h
  next => cases h

theorem bind_ok {α β ε : Type} {x : Except ε α} {f : α → Except ε β} {r : β} (h : x >>= f = .ok r) :
    ∃ a, x = .ok a ∧ f a = .ok r := by
  cases x with
  | error e => cases h
  | ok a => exact ⟨a, rfl, h⟩

/-- **The value of an expression is a word**, however deep the expression is and whatever the variables hold. -/
theorem isWord_evaluate {fuel : Nat} {s s' : Shell} {expression : Arithmetic}
    (h : evaluate fuel s expression = .ok (v, s')) : IsWord v := by
  induction fuel generalizing s s' expression v with
  | zero => cases h
  | succ fuel ih =>
    unfold evaluate at h
    extract_lets ev ofKey held at h
    -- what a place holds is a number that fits, or the value of an expression that is less deep
    have hheld : ∀ {s : Shell} {place : ArithmeticPlace} {index v : Int}, held s place index = .ok v → IsWord v := by
      intro s place index v h
      simp only [held] at h
      split at h
      next =>
        split at h
        next => cases h
        next =>
          cases h
          exact isWord_ofBool false
      next =>
        split at h
        next =>
          cases h
          exact isWord_ofBool false
        next =>
          split at h
          next hinteger =>
            cases h
            exact isWord_integer? hinteger
          next => cases h
          next =>
            obtain ⟨inner, -, h⟩ := bind_ok h
            obtain ⟨⟨value, after⟩, hvalue, h⟩ := bind_ok h
            cases h
            exact ih hvalue
    clear_value held ofKey
    cases expression with
    | number value =>
      cases h
      exact isWord_wrap _
    | cell place =>
      obtain ⟨⟨index, s₁⟩, -, h⟩ := bind_ok h
      obtain ⟨value, hvalue, h⟩ := bind_ok h
      cases h
      exact hheld hvalue
    | negative operand =>
      obtain ⟨⟨a, s₁⟩, -, h⟩ := bind_ok h
      cases h
      exact isWord_wrap _
    | complement operand =>
      obtain ⟨⟨a, s₁⟩, hoperand, h⟩ := bind_ok h
      cases h
      have ha := ih hoperand
      rw [isWord_iff] at ha ⊢
      omega
    | isZero operand =>
      obtain ⟨⟨a, s₁⟩, -, h⟩ := bind_ok h
      cases h
      exact isWord_ofBool _
    | binary operator first second =>
      cases operator with
      | both =>
        obtain ⟨⟨a, s₁⟩, -, h⟩ := bind_ok h
        simp only at h
        split at h
        next =>
          cases h
          exact isWord_ofBool false
        next =>
          obtain ⟨⟨b, s₂⟩, -, h⟩ := bind_ok h
          cases h
          exact isWord_ofBool _
      | either =>
        obtain ⟨⟨a, s₁⟩, -, h⟩ := bind_ok h
        simp only at h
        split at h
        next =>
          cases h
          exact isWord_ofBool true
        next =>
          obtain ⟨⟨b, s₂⟩, -, h⟩ := bind_ok h
          cases h
          exact isWord_ofBool _
      | _ =>
        -- every other operator takes both of its operands
        obtain ⟨⟨a, s₁⟩, hfirst, h⟩ := bind_ok h
        obtain ⟨⟨b, s₂⟩, hsecond, h⟩ := bind_ok h
        obtain ⟨value, hvalue, h⟩ := bind_ok h
        cases h
        exact isWord_apply (ih hfirst) (ih hsecond) hvalue
    | choice condition yes no =>
      obtain ⟨⟨a, s₁⟩, -, h⟩ := bind_ok h
      simp only at h
      split at h
      next => exact ih h
      next => exact ih h
    | assign place operator value =>
      obtain ⟨⟨index, s₁⟩, -, h⟩ := bind_ok h
      obtain ⟨⟨b, s₂⟩, hb, h⟩ := bind_ok h
      cases operator with
      | none =>
        obtain ⟨result, hresult, h⟩ := bind_ok h
        cases hresult
        obtain ⟨s₃, -, h⟩ := bind_ok h
        cases h
        exact ih hb
      | some operator =>
        obtain ⟨a, ha, h⟩ := bind_ok h
        obtain ⟨result, hresult, h⟩ := bind_ok h
        obtain ⟨s₃, -, h⟩ := bind_ok h
        cases h
        exact isWord_apply (hheld ha) (ih hb) hresult
    | step place difference isAfter =>
      obtain ⟨⟨index, s₁⟩, -, h⟩ := bind_ok h
      obtain ⟨a, ha, h⟩ := bind_ok h
      obtain ⟨s₂, -, h⟩ := bind_ok h
      cases h
      cases isAfter with
      | true => exact isWord_wrap _
      | false => exact hheld ha

/-- So is that of the expression in a text. -/
theorem isWord_valueOf {s s' : Shell} {text : List Char} (h : valueOf s text = .ok (v, s')) : IsWord v := by
  obtain ⟨expression, -, hvalue⟩ := bind_ok h
  exact isWord_evaluate hvalue

end BatchJob.Machine.Arithmetic
