import Repaint.Bytes

/-!
A text is stored as its UTF-8 bytes. Only well-formed bytes read back as a text, and they
read back as the text they came from.
-/

set_option autoImplicit false

namespace Repaint.Text

def bytes (s : String) : Bytes := s.toByteArray.data.toList

def ofBytes? (bs : Bytes) : Option String := String.fromUTF8? ⟨bs.toArray⟩

theorem length_bytes (s : String) : (bytes s).length = s.utf8ByteSize := by
  rfl

theorem ofBytes?_eq_some_iff {bs : Bytes} {s : String} : ofBytes? bs = some s ↔ bs = bytes s := by
  unfold ofBytes? bytes String.fromUTF8?
  constructor
  · intro h
    split at h
    · cases h
      simp [String.fromUTF8]
    · cases h
  · rintro rfl
    have hv : (⟨s.toByteArray.data.toList.toArray⟩ : ByteArray).IsValidUTF8 := by
      simpa using s.isValidUTF8
    rw [dif_pos hv]
    simp [String.fromUTF8]

end Repaint.Text
