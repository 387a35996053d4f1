/-!
# Bracketed lists

Lists inside messages read `[first, second]`.
-/

set_option autoImplicit false

namespace ChannelLayer

def bracketed (items : List String) : String := "[" ++ ", ".intercalate items ++ "]"

end ChannelLayer
