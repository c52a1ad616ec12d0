import BatchJob.Text.Octets
import BatchJob.Proofs.Text.Utf8

/-!
# Octets keep a text

A text that is written out as octets is read back from them (`ofOctets_toOctets`).
-/

namespace BatchJob.Text

theorem toList_loop (array : ByteArray) (i : Nat) (taken : List UInt8) :
    ByteArray.toList.loop array i taken = taken.reverse ++ array.data.toList.drop i := by
  unfold ByteArray.toList.loop
  by_cases h : i < array.size
  · have hlength : i < array.data.toList.length := h
    have hget : array.get! i = array.data.toList[i] := getElem!_pos array.data i h
    rw [if_pos h, toList_loop array (i + 1), List.reverse_cons, List.append_assoc, hget,
      List.drop_eq_getElem_cons hlength, List.singleton_append]
  · have hlength : array.data.toList.length ≤ i := Nat.not_lt.mp h
    rw [if_neg h, List.drop_eq_nil_of_le hlength, List.append_nil]
termination_by array.size - i

/-- The bytes of a text are its encoding. -/
theorem toList_toUTF8 (text : String) : text.toUTF8.toList = encode text.toList := by
  unfold ByteArray.toList
  rw [toList_loop, String.toUTF8_eq_toByteArray, ← String.utf8Encode_toList, List.utf8Encode]
  simp [encode]

/-- **A text is read back from its octets.** -/
theorem ofOctets_toOctets (text : String) : ofOctets (toOctets text) = text := by
  unfold ofOctets toOctets
  rw [toBytes_ofBytes, toList_toUTF8, decodeLossy_encode, String.ofList_toList]

end BatchJob.Text
