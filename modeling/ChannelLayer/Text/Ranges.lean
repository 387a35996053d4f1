/-!
# Ranges of code points

A set of characters given by closed ranges of code points, ascending and apart.
-/

set_option autoImplicit false

namespace ChannelLayer

abbrev Ranges := List (Nat × Nat)

namespace Ranges

def contains (rs : Ranges) (c : Char) : Bool := rs.any fun r => r.1 ≤ c.toNat && c.toNat ≤ r.2

/-- Each range starts behind the one before it, with a gap between them. -/
def isAscending : Ranges → Bool
  | [] => true
  | [r] => r.1 ≤ r.2
  | r :: s :: rest => r.1 ≤ r.2 && r.2 + 1 < s.1 && isAscending (s :: rest)

/-- The number of code points in ascending ranges. -/
def size (rs : Ranges) : Nat := rs.foldl (fun n r => n + (r.2 + 1 - r.1)) 0

end Ranges

end ChannelLayer
