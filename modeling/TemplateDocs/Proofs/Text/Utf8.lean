import TemplateDocs.Text.Utf8

/-! # Laws of texts and bytes -/

namespace TemplateDocs.Text

/-- The bytes of a text are read back as that text. -/
theorem decode?_encode (s : String) : decode? (encode s) = some s := by
  unfold decode? encode String.fromUTF8?
  simp only [String.toUTF8_eq_toByteArray, s.isValidUTF8, dite_true]
  rfl

theorem encode?_eq_none_iff {s : String} : encode? s = none ↔ hasHalf s = true := by
  unfold encode?
  split <;> simp_all

theorem encode?_eq_some {s : String} {bytes : ByteArray} (h : encode? s = some bytes) :
    bytes = encode s := by
  unfold encode? at h
  split at h
  · cases h
  · cases h
    rfl

theorem encode?_of_not_hasHalf {s : String} (h : hasHalf s = false) : encode? s = some (encode s) := by
  rw [encode?, h]
  rfl

end TemplateDocs.Text
