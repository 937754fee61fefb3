import UnattendedRefresh.Http.Percent

/-!
# Text without percent signs

Where no percent sign stands nothing is decoded, so that the bytes are those of the text
itself and spell it.
-/

namespace UnattendedRefresh

namespace Http

theorem decodePercent_of_plain {characters : List Char} (plain : '%' ∉ characters) :
    decodePercent characters = characters.flatMap String.utf8EncodeChar := by
  induction characters with
  | nil => simp [decodePercent]
  | cons character rest ih =>
      obtain ⟨other, plain⟩ := not_or.mp (mt List.mem_cons.mpr plain)
      rw [List.flatMap_cons, ← ih plain]
      simp [decodePercent, Ne.symm other]

theorem textOfBytes?_encoded (characters : List Char) :
    textOfBytes? (characters.flatMap String.utf8EncodeChar) = some (String.ofList characters) := by
  have bytes : (⟨(characters.flatMap String.utf8EncodeChar).toArray⟩ : ByteArray) =
      characters.utf8Encode := by
    apply ByteArray.ext
    rw [List.utf8Encode, List.data_toByteArray]
  rw [textOfBytes?, bytes]
  exact dif_pos ByteArray.isValidUTF8_utf8Encode

/-- What is written without a percent sign is read as it stands. -/
theorem textOfBytes?_of_plain {characters : List Char} (plain : '%' ∉ characters) :
    textOfBytes? (decodePercent characters) = some (String.ofList characters) := by
  rw [decodePercent_of_plain plain, textOfBytes?_encoded]

end Http

end UnattendedRefresh
