import ChannelLayer.Text.Ranges

/-!
# Blank text

The characters with the Unicode property `White_Space`.
-/

set_option autoImplicit false

namespace ChannelLayer

def blankRanges : Ranges :=
  [(0x0009, 0x000d), (0x0020, 0x0020), (0x0085, 0x0085), (0x00a0, 0x00a0), (0x1680, 0x1680),
    (0x2000, 0x200a), (0x2028, 0x2029), (0x202f, 0x202f), (0x205f, 0x205f), (0x3000, 0x3000)]

def isBlank (c : Char) : Bool := blankRanges.contains c

/-- Nothing is left of `s` once white space is taken off its ends. -/
def isBlankText (s : String) : Bool := s.toList.all isBlank

end ChannelLayer
