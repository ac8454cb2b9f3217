/-
The bytes of a text, character by character, and as the data that the text is made of. What the data
says of a text can be evaluated without decoding it.
-/
import UiSkeleton.Text.Utf8

namespace UiSkeleton.Text

theorem toListLoop_eq (bytes : ByteArray) (i : Nat) (r : List UInt8) :
    ByteArray.toList.loop bytes i r = r.reverse ++ bytes.data.toList.drop i := by
  induction i, r using ByteArray.toList.loop.induct bytes with
  | case1 i r h ih =>
    have hi : i < bytes.data.toList.length := h
    have hget : bytes.get! i = bytes.data.toList[i] := by
      rw [ByteArray.get!, getElem!_pos]
      rfl
    rw [ByteArray.toList.loop, if_pos h, ih, List.drop_eq_getElem_cons hi, hget]
    simp
  | case2 i r h =>
    have hi : bytes.data.toList.length ≤ i := Nat.le_of_not_lt h
    rw [ByteArray.toList.loop, if_neg h, List.drop_of_length_le hi, List.append_nil]

theorem toBytes_eq_data (s : String) : toBytes s = s.toByteArray.data.toList := by
  rw [toBytes, ByteArray.toList, toListLoop_eq]
  rfl

theorem toBytes_eq_flatMap (s : String) : toBytes s = s.toList.flatMap String.utf8EncodeChar := by
  rw [toBytes_eq_data, ← String.utf8Encode_toList, List.utf8Encode, List.toList_data_toByteArray]

theorem length_toBytes {s : String} (h : ∀ c ∈ s.toList, c.toNat < 0x80) :
    (toBytes s).length = s.toList.length := by
  rw [toBytes_eq_flatMap]
  generalize s.toList = cs at h
  induction cs with
  | nil => rfl
  | cons c cs ih =>
    have hsize : c.utf8Size = 1 := Char.utf8Size_eq_one_iff.2 (Nat.le_of_lt_succ (h c List.mem_cons_self))
    rw [List.flatMap_cons, List.length_append, String.length_utf8EncodeChar, hsize,
      ih fun d hd => h d (List.mem_cons_of_mem c hd), List.length_cons, Nat.add_comm]

/-- A character is missing in a text if one of its bytes is. -/
theorem not_mem_of_data {s : String} {c : Char} {b : UInt8} (hb : b ∈ String.utf8EncodeChar c)
    (h : b ∉ s.toByteArray.data.toList) : c ∉ s.toList := by
  intro hmem
  rw [← toBytes_eq_data, toBytes_eq_flatMap] at h
  exact h (List.mem_flatMap.2 ⟨c, hmem, hb⟩)

end UiSkeleton.Text
