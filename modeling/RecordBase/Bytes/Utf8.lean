import RecordBase.Bytes.Endian

/-!
# The bytes of a text

A text is stored and sent as its UTF-8 bytes. Every text has bytes, and only the bytes of a text
are read as one: `toText?_eq_some_iff`.
-/

namespace RecordBase.Bytes

/-- The UTF-8 bytes of a text. -/
def ofText (text : String) : Bytes := text.toByteArray.data.toList

/-- The text with the given UTF-8 bytes, if there is one. -/
def toText? (bytes : Bytes) : Option String := String.fromUTF8? bytes.toByteArray

theorem toByteArray_ofText (text : String) : (ofText text).toByteArray = text.toByteArray := by
  apply ByteArray.ext
  simp [ofText, List.data_toByteArray]

@[simp] theorem toText?_ofText (text : String) : toText? (ofText text) = some text := by
  have h : text.toByteArray.IsValidUTF8 := text.isValidUTF8
  simp only [toText?, toByteArray_ofText, String.fromUTF8?, h, dite_true, String.fromUTF8]

theorem toText?_eq_some_iff {bytes : Bytes} {text : String} :
    toText? bytes = some text ↔ bytes = ofText text := by
  constructor
  · intro h
    simp only [toText?, String.fromUTF8?] at h
    split at h
    · simp only [Option.some.injEq] at h
      subst h
      simp [ofText, String.fromUTF8, List.data_toByteArray]
    · cases h
  · rintro rfl
    exact toText?_ofText text

end RecordBase.Bytes
