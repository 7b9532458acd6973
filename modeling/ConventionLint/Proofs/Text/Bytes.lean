import ConventionLint.Text.Bytes

namespace ConventionLint.Bytes

theorem toByteArray_ofText (text : String) : (ofText text).toByteArray = text.toByteArray :=
  calc (ofText text).toByteArray
    _ = text.toList.utf8Encode := rfl
    _ = text.toByteArray := String.utf8Encode_toList

theorem toByteArray_injective {first second : Bytes}
    (same : first.toByteArray = second.toByteArray) : first = second := by
  have arrays := congrArg ByteArray.data same
  rw [List.data_toByteArray, List.data_toByteArray] at arrays
  exact List.toArray_inj arrays

theorem text?_eq_some_iff (bytes : Bytes) (text : String) :
    bytes.text? = some text ↔ bytes = ofText text := by
  constructor
  · intro decoded
    unfold text? String.fromUTF8? at decoded
    split at decoded
    · next valid =>
        cases decoded
        apply toByteArray_injective
        calc bytes.toByteArray
          _ = (String.fromUTF8 bytes.toByteArray valid).toByteArray := rfl
          _ = _ := (toByteArray_ofText _).symm
    · cases decoded
  · rintro rfl
    have valid : (ofText text).toByteArray.IsValidUTF8 := by
      rw [toByteArray_ofText]
      exact text.isValidUTF8
    unfold text? String.fromUTF8?
    rw [dif_pos valid, Option.some_inj]
    apply String.toByteArray_inj.mp
    exact toByteArray_ofText text

theorem shown_ofText (text : String) : (ofText text).shown = text := by
  rw [shown, (text?_eq_some_iff _ text).mpr rfl, Option.getD_some]

end ConventionLint.Bytes
