import ChannelLayer.Bytes

/-!
# Hexadecimal text

Two digits a byte, the high half first. Digits are read in either case.
-/

set_option autoImplicit false

namespace ChannelLayer.Hex

/-- The digits of `bs` in lower case. -/
def digits (bs : Bytes) : List Char :=
  bs.flatMap fun b => [Nat.digitChar (b.toNat / 16), Nat.digitChar (b.toNat % 16)]

def lower (bs : Bytes) : String := String.ofList (digits bs)

def upper (bs : Bytes) : String := String.ofList ((digits bs).map Char.toUpper)

/-- The value of a digit. -/
def digit? (c : Char) : Option Nat :=
  if c.isDigit then some (c.toNat - '0'.toNat)
  else if 'a' ≤ c ∧ c ≤ 'f' then some (c.toNat - 'a'.toNat + 10)
  else if 'A' ≤ c ∧ c ≤ 'F' then some (c.toNat - 'A'.toNat + 10)
  else none

def ofDigits? : List Char → Option Bytes
  | [] => some []
  | a :: b :: rest => do
    return UInt8.ofNat (16 * (← digit? a) + (← digit? b)) :: (← ofDigits? rest)
  | [_] => none

def ofText? (s : String) : Option Bytes := ofDigits? s.toList

end ChannelLayer.Hex
