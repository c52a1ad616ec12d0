import Mathlib
import BatchJob.Text.Blank

/-!
# Letters of either case

Texts that differ only in the case of their ASCII letters. Raising both texts to upper case tells them from others
(`map_upperAscii_eq_iff`).
-/

namespace BatchJob.Text

/-- The same text up to the case of ASCII letters. -/
def SameLetters (a b : List Char) : Prop :=
  a.map Char.toLower = b.map Char.toLower

instance (a b : List Char) : Decidable (SameLetters a b) :=
  inferInstanceAs (Decidable (_ = _))

/-- Raising a letter is what the standard library does. -/
theorem upperAscii_eq (c : Char) : upperAscii c = c.toUpper := by
  unfold upperAscii
  by_cases h : c.isLower = true
  · rw [Char.toUpper_eq_of_isLower h, if_pos]
    exact h
  · rw [Char.toUpper_eq_of_not_isLower h, if_neg]
    exact h

theorem map_upperAscii_eq_iff {a b : List Char} : a.map upperAscii = b.map upperAscii ↔ SameLetters a b := by
  have hupper (l : List Char) : l.map upperAscii = (l.map Char.toLower).map Char.toUpper := by
    rw [List.map_map]
    exact List.map_congr_left fun c _ => by simp [upperAscii_eq]
  have hlower (l : List Char) : l.map Char.toLower = (l.map upperAscii).map Char.toLower := by
    rw [List.map_map]
    exact List.map_congr_left fun c _ => by simp [upperAscii_eq]
  unfold SameLetters
  constructor
  · intro h
    rw [hlower a, hlower b, h]
  · intro h
    rw [hupper a, hupper b, h]

/-- A word that is in upper case is compared with a text by raising the text. -/
theorem map_upperAscii_eq {text word : List Char} (h : word.map upperAscii = word) :
    text.map upperAscii = word ↔ SameLetters text word := by
  rw [← map_upperAscii_eq_iff, h]

end BatchJob.Text
