import BatchJob.ByteQueue
import BatchJob.Text.Utf8

/-!
# Octets as characters

A text in which every character stands for one byte, the one with its code. Programs that know nothing of
encodings work on such texts: they count, compare and cut bytes. ASCII texts are the same in both forms.
-/

namespace BatchJob.Text

/-- The character that stands for a byte. -/
def octet (b : UInt8) : Char :=
  Char.ofNat b.toNat

/-- Bytes as a text of octets. -/
def ofBytes (bytes : Bytes) : String :=
  String.ofList (bytes.map octet)

/-- The bytes that a text of octets stands for. -/
def toBytes (text : String) : Bytes :=
  text.toList.map fun c => UInt8.ofNat c.toNat

/-- A text as octets. -/
def toOctets (text : String) : String :=
  ofBytes text.toUTF8.toList

/-- The text that octets encode. -/
def ofOctets (text : String) : String :=
  String.ofList (decodeLossy (toBytes text))

/-- The character that stands for a byte has the byte as its code. -/
theorem toNat_octet (b : UInt8) : (octet b).toNat = b.toNat := by
  have size := b.toNat_lt
  have h : b.toNat.isValidChar := Or.inl (by omega)
  rw [octet, Char.ofNat, dif_pos h]
  rfl

/-- The octets of bytes stand for these bytes. -/
theorem toBytes_ofBytes (bytes : Bytes) : toBytes (ofBytes bytes) = bytes := by
  simp only [toBytes, ofBytes, String.toList_ofList, List.map_map]
  conv => rhs; rw [← List.map_id bytes]
  exact List.map_congr_left fun b _ => by simp [toNat_octet]

end BatchJob.Text
