/-!
# Byte strings

Everything a chain commits to is a list of bytes. Numbers enter it as eight bytes, most significant
first, and texts as their UTF-8 encoding.
-/

set_option autoImplicit false

namespace ChannelLayer

abbrev Bytes := List UInt8

namespace Bytes

/-- The eight bytes of `n`, most significant first. -/
def ofUInt64 (n : UInt64) : Bytes :=
  [n >>> 56, n >>> 48, n >>> 40, n >>> 32, n >>> 24, n >>> 16, n >>> 8, n].map UInt64.toUInt8

@[simp] theorem length_ofUInt64 (n : UInt64) : (ofUInt64 n).length = 8 := rfl

/-- The UTF-8 encoding of a text. -/
def ofText (s : String) : Bytes := s.toUTF8.data.toList

/-- The text that `bs` encodes, if it is valid UTF-8. -/
def text? (bs : Bytes) : Option String := String.fromUTF8? ⟨⟨bs⟩⟩

theorem ofText_injective {s t : String} (h : ofText s = ofText t) : s = t := by
  apply String.toByteArray_inj.1
  apply ByteArray.ext
  exact Array.toList_inj.1 h

end Bytes

end ChannelLayer
