import DeviceCatalog.Text

/-!
# The order of texts is the order of their bytes

Texts are ordered by code points. Their UTF-8 encodings are in the same order, byte by byte, so it
makes no difference whether a listing compares keys as texts or as bytes.
-/

namespace DeviceCatalog.Text

theorem ofText_eq (text : String) :
    Bytes.ofText text = text.toList.flatMap String.utf8EncodeChar := by
  have bytes : text.toByteArray = text.toList.utf8Encode := by
    rw [← String.toByteArray_ofList, String.ofList_toList]
  rw [Bytes.ofText, bytes, List.utf8Encode, List.data_toByteArray]

theorem toNat_val_lt (char : Char) : char.val.toNat < 0x110000 := by
  have valid := char.valid
  simp only [UInt32.isValidChar, Nat.isValidChar] at valid
  omega

/-- The first byte in which the encodings of two characters differ is less for the lesser
character. -/
theorem encodeChar_lt {lesser greater : Char} (lt : lesser < greater) (left right : Bytes) :
    String.utf8EncodeChar lesser ++ left < String.utf8EncodeChar greater ++ right := by
  have order : lesser.val.toNat < greater.val.toNat := UInt32.lt_iff_toNat_lt.1 lt
  have bound := toNat_val_lt greater
  simp only [String.utf8EncodeChar]
  have third (code : Nat) : code / 4096 = code / 64 / 64 := by omega
  have fourth (code : Nat) : code / 262144 = code / 64 / 64 / 64 := by omega
  generalize lesser.val.toNat = first at order
  generalize greater.val.toNat = second at order bound
  repeat' split
  all_goals
    simp only [List.cons_append, List.nil_append, List.cons_lt_cons_iff, UInt8.lt_iff_toNat_lt,
      ← UInt8.toNat_inj, UInt8.toNat_ofNat', third, fourth]
    omega

theorem flatMap_lt {lesser greater : List Char} (lt : lesser < greater) :
    lesser.flatMap String.utf8EncodeChar < greater.flatMap String.utf8EncodeChar := by
  induction lesser generalizing greater with
  | nil =>
      cases greater with
      | nil => exact absurd lt (List.not_lt_nil _)
      | cons char rest =>
          have nonempty := @String.utf8EncodeChar_ne_nil char
          obtain ⟨byte, bytes, encoded⟩ := List.exists_cons_of_ne_nil nonempty
          rw [List.flatMap_nil, List.flatMap_cons, encoded]
          exact List.nil_lt_cons _ _
  | cons first others ih =>
      cases greater with
      | nil => exact absurd lt (List.not_lt_nil _)
      | cons char rest =>
          rw [List.flatMap_cons, List.flatMap_cons]
          rcases List.cons_lt_cons_iff.1 lt with apart | ⟨rfl, remaining⟩
          · exact encodeChar_lt apart _ _
          · exact List.append_left_lt (ih remaining)

/-- Texts are ordered as their bytes are. -/
theorem ofText_lt_iff {left right : String} :
    Bytes.ofText left < Bytes.ofText right ↔ left < right := by
  have forward {lesser greater : String} (lt : lesser < greater) :
      Bytes.ofText lesser < Bytes.ofText greater := by
    rw [ofText_eq, ofText_eq]
    exact flatMap_lt lt
  constructor
  · intro bytes
    by_cases lt : left < right
    · exact lt
    · by_cases gt : right < left
      · exact absurd (forward gt) (List.lt_asymm bytes)
      · rw [String.le_antisymm (String.not_lt.1 gt) (String.not_lt.1 lt)] at bytes
        exact absurd bytes (List.lt_irrefl _)
  · exact forward

end DeviceCatalog.Text
