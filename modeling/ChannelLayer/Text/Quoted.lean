import ChannelLayer.Text.Visible

/-!
# Quoted text

A text between double quotes. A backslash stands before quotes and backslashes, and introduces every
character that is not visible: by a letter for the four most common ones, and by its code point otherwise.
-/

set_option autoImplicit false

namespace ChannelLayer.Quoted

def escape (c : Char) : List Char :=
  if c = '"' ∨ c = '\\' then ['\\', c]
  else if c = '\n' then ['\\', 'n']
  else if c = '\r' then ['\\', 'r']
  else if c = '\t' then ['\\', 't']
  else if c.toNat = 0 then ['\\', '0']
  else if isVisible c then [c]
  else ['\\', 'u', '\x7b'] ++ Nat.toDigits 16 c.toNat ++ ['\x7d']

def text (s : String) : String := String.ofList ('"' :: s.toList.flatMap escape ++ ['"'])

end ChannelLayer.Quoted
