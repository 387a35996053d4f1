import ChannelLayer.Text.Extending
import ChannelLayer.Text.Graphic

/-!
# Visible characters

A character is visible if it can be told from a text that lacks it: it has a form of its own, it does not
join the character before it, and a display is not free to leave it out.
-/

set_option autoImplicit false

namespace ChannelLayer

/-- The property `Default_Ignorable_Code_Point` of Unicode 17.0. -/
def ignorableRanges : Ranges :=
  [(0x00ad, 0x00ad), (0x034f, 0x034f), (0x061c, 0x061c), (0x115f, 0x1160), (0x17b4, 0x17b5),
    (0x180b, 0x180f), (0x200b, 0x200f), (0x202a, 0x202e), (0x2060, 0x206f), (0x3164, 0x3164),
    (0xfe00, 0xfe0f), (0xfeff, 0xfeff), (0xffa0, 0xffa0), (0xfff0, 0xfff8), (0x1bca0, 0x1bca3),
    (0x1d173, 0x1d17a), (0xe0000, 0xe0fff)]

def isVisible (c : Char) : Bool := isGraphic c && !isExtending c && !ignorableRanges.contains c

example : ignorableRanges.isAscending = true := by decide +kernel
example : ignorableRanges.size = 4174 := by decide +kernel

end ChannelLayer
