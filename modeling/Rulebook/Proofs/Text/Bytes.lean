import Rulebook.Files.Basic

namespace Rulebook

theorem textOfBytes_toUTF8 (s : String) : textOfBytes s.toUTF8 = .ok s := by
  have hread : String.fromUTF8? s.toUTF8 = some s := by
    rw [String.fromUTF8?, String.toUTF8_eq_toByteArray, dif_pos s.isValidUTF8]
    rfl
  rw [textOfBytes, hread]

theorem toList_loop (bytes : ByteArray) (i : Nat) (collected : List UInt8) :
    ByteArray.toList.loop bytes i collected = collected.reverse ++ bytes.data.toList.drop i := by
  fun_induction ByteArray.toList.loop bytes i collected with
  | case1 i collected hlt ih =>
      have hi : i < bytes.data.size := hlt
      have hbyte : bytes.get! i = bytes.data.toList[i] := by
        rw [ByteArray.get!, getElem!_pos bytes.data i hi, Array.getElem_toList]
      rw [ih, List.reverse_cons, List.append_assoc,
        List.singleton_append, hbyte, ← List.drop_eq_getElem_cons]
  | case2 i collected hge =>
      have hall : bytes.data.toList.length ≤ i := by
        rw [Array.length_toList]
        exact Nat.le_of_not_lt hge
      rw [List.drop_eq_nil_of_le hall, List.append_nil]

theorem toList_toUTF8_injective : Function.Injective fun s : String => s.toUTF8.toList := by
  intro s t h
  have hdata : s.toUTF8.data.toList = t.toUTF8.data.toList := by
    have hbytes : s.toUTF8.toList = t.toUTF8.toList := h
    rw [ByteArray.toList, ByteArray.toList, toList_loop, toList_loop] at hbytes
    exact hbytes
  exact String.toByteArray_inj.mp (ByteArray.ext (Array.toList_inj.mp hdata))

theorem toList_toUTF8_ofList (cs : List Char) :
    (String.ofList cs).toUTF8.toList = cs.flatMap String.utf8EncodeChar := by
  rw [ByteArray.toList, toList_loop]
  exact List.toList_data_toByteArray

theorem exists_toUTF8_iff {bytes : ByteArray} :
    bytes.IsValidUTF8 ↔ ∃ s : String, bytes = s.toUTF8 := by
  constructor
  · intro h
    exact ⟨.ofByteArray bytes h, rfl⟩
  · rintro ⟨s, rfl⟩
    exact s.isValidUTF8

theorem isValidUTF8_toUTF8_append_iff {s : String} {bytes : ByteArray} :
    (s.toUTF8 ++ bytes).IsValidUTF8 ↔ bytes.IsValidUTF8 := by
  have hchars (cs : List Char) : (cs.utf8Encode ++ bytes).IsValidUTF8 ↔ bytes.IsValidUTF8 := by
    induction cs with
    | nil => rw [List.utf8Encode_nil, ByteArray.empty_append]
    | cons c cs ih =>
        rw [← List.singleton_append, List.utf8Encode_append, ByteArray.append_assoc,
          ByteArray.isValidUTF8_utf8Encode_singleton_append_iff, ih]
  rw [String.toUTF8_eq_toByteArray, ← String.utf8Encode_toList]
  exact hchars s.toList

theorem isValidUTF8_of_append_toUTF8 {bytes : ByteArray} {s : String}
    (h : (bytes ++ s.toUTF8).IsValidUTF8) : bytes.IsValidUTF8 := by
  by_cases hs : s.toUTF8 = .empty
  · rw [hs, ByteArray.append_empty] at h
    exact h
  have hsize : 0 < s.toUTF8.size := by
    rw [Nat.pos_iff_ne_zero]
    exact fun hzero => hs (ByteArray.size_eq_zero_iff.mp hzero)
  let whole := String.ofByteArray (bytes ++ s.toUTF8) h
  have hwhole : whole.toByteArray = bytes ++ s.toUTF8 := rfl
  have hbound : bytes.size < (bytes ++ s.toUTF8).size := by
    rw [ByteArray.size_append]
    exact Nat.lt_add_of_pos_right hsize
  have hlt : (⟨bytes.size⟩ : String.Pos.Raw) < whole.rawEndPos := by
    rw [String.Pos.Raw.lt_iff, String.byteIdx_rawEndPos, ← String.size_toByteArray, hwhole]
    exact hbound
  have hfirst : (whole.getUTF8Byte ⟨bytes.size⟩ hlt).IsUTF8FirstByte := by
    have hbyte : whole.getUTF8Byte ⟨bytes.size⟩ hlt = s.toUTF8[0] := by
      show (bytes ++ s.toUTF8)[bytes.size] = _
      rw [ByteArray.getElem_append_right (Nat.le_refl _)]
      simp
    rw [hbyte]
    exact ByteArray.IsValidUTF8.isUTF8FirstByte_getElem_zero s.isValidUTF8 hsize
  have hvalid : String.Pos.Raw.IsValid whole ⟨bytes.size⟩ :=
    String.Pos.Raw.isValid_iff_isUTF8FirstByte.mpr (Or.inr ⟨hlt, hfirst⟩)
  have hextract := (String.Pos.Raw.isValid_iff_isValidUTF8_extract_zero.mp hvalid).2
  rw [hwhole, ByteArray.extract_append_eq_left rfl] at hextract
  exact hextract

end Rulebook
