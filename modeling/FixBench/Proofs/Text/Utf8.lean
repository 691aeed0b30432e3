import FixBench.Text.Utf8

/-!
# Text and its bytes

`encode` gives the bytes of a text and `decode` accepts exactly the bytes of some text. As a text
is determined by its bytes, reading and writing are inverse to each other.
-/
namespace FixBench.Utf8

theorem toByteArray_encode (text : String) : (encode text).toByteArray = text.toByteArray := by
  apply ByteArray.ext
  rw [List.data_toByteArray, encode, Array.toArray_toList]

theorem encode_injective {left right : String} (same : encode left = encode right) :
    left = right := by
  rw [← String.toByteArray_inj, ← toByteArray_encode, ← toByteArray_encode, same]

theorem encode_append (left right : String) : encode (left ++ right) = encode left ++ encode right := by
  simp [encode, String.toByteArray_append]

theorem encode_eq_nil_iff (text : String) : encode text = [] ↔ text = "" := by
  constructor
  · intro empty
    exact encode_injective (empty.trans rfl)
  · rintro rfl
    rfl

/-- Exactly the bytes of a text are accepted, and that text is the answer. -/
theorem decode_eq_ok_iff (bytes : List UInt8) (text : String) :
    decode bytes = .ok text ↔ encode text = bytes := by
  unfold decode String.fromUTF8?
  constructor
  · intro read
    split at read
    · rename_i found
      split at found
      · rename_i valid
        cases found
        cases read
        simp [encode, String.fromUTF8]
      · cases found
    · cases read
  · rintro rfl
    have valid : (encode text).toByteArray.IsValidUTF8 := by
      rw [toByteArray_encode]
      exact text.isValidUTF8
    rw [dif_pos valid]
    simp only [Except.ok.injEq]
    rw [← String.toByteArray_inj]
    exact toByteArray_encode text

/-- Bytes are valid when they are the bytes of a text. -/
theorem isValidUTF8_iff (bytes : List UInt8) :
    bytes.toByteArray.IsValidUTF8 ↔ ∃ text, encode text = bytes := by
  constructor
  · intro valid
    exact ⟨String.fromUTF8 bytes.toByteArray valid, by simp [encode, String.fromUTF8]⟩
  · rintro ⟨text, rfl⟩
    rw [toByteArray_encode]
    exact text.isValidUTF8

end FixBench.Utf8
