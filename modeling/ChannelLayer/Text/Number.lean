/-!
# Reading numbers

A number is a non-empty run of decimal digits whose value fits 64 bits. One leading plus sign and
leading zeros are accepted; the first fault from the left is the one reported.
-/

set_option autoImplicit false

namespace ChannelLayer

inductive NumberError where
  | empty
  | notDigit
  | tooLarge
  deriving DecidableEq

def NumberError.message : NumberError → String
  | .empty => "cannot parse integer from empty string"
  | .notDigit => "invalid digit found in string"
  | .tooLarge => "number too large to fit in target type"

namespace Number

/-- Appends the digits `cs` to the number `acc` read so far. -/
def readDigits (acc : Nat) : List Char → Except NumberError Nat
  | [] => .ok acc
  | c :: cs =>
    if c.isDigit then
      let next := 10 * acc + (c.toNat - '0'.toNat)
      if next < UInt64.size then readDigits next cs else .error .tooLarge
    else .error .notDigit

/-- Reads a whole text. A sign on its own is no digit. -/
def read : List Char → Except NumberError UInt64
  | [] => .error .empty
  | '+' :: c :: cs => (readDigits 0 (c :: cs)).map UInt64.ofNat
  | cs => (readDigits 0 cs).map UInt64.ofNat

def ofText (s : String) : Except NumberError UInt64 := read s.toList

theorem readDigits_lt {acc n : Nat} {cs : List Char} (hacc : acc < UInt64.size)
    (h : readDigits acc cs = .ok n) : n < UInt64.size := by
  induction cs generalizing acc with
  | nil => cases h; exact hacc
  | cons c cs ih =>
    rw [readDigits] at h
    split at h
    · dsimp only at h
      split at h
      · next hn => exact ih hn h
      · cases h
    · cases h

/-- `n` in at least `width` digits. -/
def padded (width n : Nat) : String :=
  let digits := Nat.toDigits 10 n
  String.ofList (List.replicate (width - digits.length) '0' ++ digits)

end Number

/-- The decimal text of a 64-bit number. -/
def decimal (n : UInt64) : String := Nat.repr n.toNat

end ChannelLayer
