import Junction.Text.Utf8
import Mathlib.Data.List.Basic

/-!
Texts as bytes: a text is read back from its UTF-8 (`ofBytes_toUTF8`), and one of ASCII characters has one byte for each
(`toList_toUTF8`).
-/

namespace Junction.Text

/-! ## Lists of bytes -/

theorem toList_loop (bytes : ByteArray) (i : Nat) (before : List UInt8) :
    ByteArray.toList.loop bytes i before = before.reverse ++ bytes.data.toList.drop i := by
  induction i, before using ByteArray.toList.loop.induct bytes with
  | case1 i before inside ih =>
    have listed : i < bytes.data.toList.length := inside
    have byte : bytes.get! i = bytes.data.toList[i] := by
      rw [Array.getElem_toList]
      exact getElem!_pos bytes.data i inside
    rw [ByteArray.toList.loop, if_pos inside, ih, List.drop_eq_getElem_cons listed, byte, List.reverse_cons,
      List.append_assoc, List.singleton_append]
  | case2 i before outside =>
    have past : bytes.data.toList.length ≤ i := Nat.not_lt.mp outside
    rw [ByteArray.toList.loop, if_neg outside, List.drop_eq_nil_of_le past, List.append_nil]

theorem toList_eq (bytes : ByteArray) : bytes.toList = bytes.data.toList := by
  rw [ByteArray.toList, toList_loop, List.reverse_nil, List.nil_append, List.drop_zero]

/-- A text is read back from its bytes. -/
theorem ofBytes_toUTF8 (text : String) : ofBytes ⟨text.toUTF8.toList.toArray⟩ = text := by
  have valid : String.fromUTF8? text.toUTF8 = some text := dif_pos (String.isValidUTF8 text)
  rw [toList_eq, Array.toArray_toList, ofBytes, valid]

/-! ## ASCII -/

/-- The byte of an ASCII character. -/
def asciiByte (c : Char) : UInt8 := UInt8.ofNat c.toNat

theorem ofNat_asciiByte {c : Char} (ascii : c.toNat < 128) : Char.ofNat (asciiByte c).toNat = c := by
  rw [asciiByte, UInt8.toNat_ofNat_of_lt' (Nat.lt_trans ascii (by decide)), Char.ofNat_toNat]

theorem asciiByte_inj {c d : Char} (ascii : c.toNat < 128) (ascii' : d.toNat < 128) :
    asciiByte c = asciiByte d ↔ c = d := by
  constructor
  · intro same
    rw [← ofNat_asciiByte ascii, same, ofNat_asciiByte ascii']
  · exact fun same => congrArg asciiByte same

/-- A text of ASCII characters has one byte for each of them. -/
theorem toList_toUTF8 {s : List Char} (ascii : ∀ c ∈ s, c.toNat < 128) :
    (String.ofList s).toUTF8.toList = s.map asciiByte := by
  have bytes : s.flatMap String.utf8EncodeChar = s.map asciiByte := by
    induction s with
    | nil => rfl
    | cons c s ih =>
      obtain ⟨here, later⟩ := List.forall_mem_cons.mp ascii
      have single : String.utf8EncodeChar c = [asciiByte c] := if_pos (Nat.le_of_lt_succ here)
      rw [List.flatMap_cons, single, ih later, List.map_cons, List.singleton_append]
  rw [toList_eq, String.toUTF8_eq_toByteArray, String.toByteArray_ofList, List.utf8Encode, List.toList_data_toByteArray,
    bytes]

end Junction.Text
