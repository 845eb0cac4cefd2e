/-!
# Text as bytes

The UTF-8 form of a text and its reading. Reading is strict, and it undoes writing
(`decode?_encode`).
-/

namespace SoapDispatch.Text.Utf8

/-- The bytes of a text in UTF-8. -/
def encode (text : String) : List UInt8 :=
  text.toByteArray.data.toList

/-- The text that bytes are in UTF-8, if they are one. -/
def decode? (bytes : List UInt8) : Option String :=
  String.fromUTF8? ⟨bytes.toArray⟩

/-- Every text is read back as it was written. -/
@[simp] theorem decode?_encode (text : String) : decode? (encode text) = some text := by
  simp only [decode?, encode, Array.toArray_toList, String.fromUTF8?]
  exact dif_pos text.isValidUTF8

end SoapDispatch.Text.Utf8
