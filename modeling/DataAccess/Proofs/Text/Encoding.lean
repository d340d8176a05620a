import DataAccess.Text.Utf8

-- Texts as bytes and back.
namespace DataAccess.Text

theorem length_utf8 (s : String) : (utf8 s).length = s.utf8ByteSize := by
  simp [utf8]

theorem ofUtf8?_utf8 (s : String) : ofUtf8? (utf8 s) = some s := by
  have same : (⟨(utf8 s).toArray⟩ : ByteArray) = s.toByteArray := by
    rw [utf8,Array.toArray_toList,String.toUTF8_eq_toByteArray]
  rw [ofUtf8?,same,String.fromUTF8?,dif_pos s.isValidUTF8]
  rfl

theorem utf8_append (s t : String) : utf8 (s ++ t) = utf8 s ++ utf8 t := by
  simp [utf8]

end DataAccess.Text
