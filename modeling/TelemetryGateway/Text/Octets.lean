/-!
# Texts as bytes

The UTF-8 bytes of a text, and the text of a byte string that is valid UTF-8.

## Main definitions

- `utf8`: the bytes of a text
- `ofUtf8?`: the text of a byte string, if there is one
- `ofUtf8?_utf8`: reading the bytes of a text gives the text back
-/

namespace TelemetryGateway.Text

/-- The UTF-8 bytes of a text. -/
def utf8 (s : String) : List UInt8 :=
  s.toUTF8.data.toList

/-- The text with these UTF-8 bytes, if they are valid. -/
def ofUtf8? (bytes : List UInt8) : Option String :=
  String.fromUTF8? ⟨bytes.toArray⟩

/-- Reading the bytes of a text gives the text back. -/
theorem ofUtf8?_utf8 (s : String) : ofUtf8? (utf8 s) = some s := by
  have h : (⟨(utf8 s).toArray⟩ : ByteArray) = s.toByteArray := by
    simp [utf8, String.toUTF8_eq_toByteArray]
  rw [ofUtf8?, h]
  simp only [String.fromUTF8?, dif_pos s.isValidUTF8]
  rfl

end TelemetryGateway.Text
