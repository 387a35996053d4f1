import ChannelLayer.Bytes

/-!
# Varints

A number in base 128, least digit first; every byte but the last has its top bit set. At most ten bytes
are read, and their value has to fit 64 bits.
-/

set_option autoImplicit false

namespace ChannelLayer.Protobuf

def writeVarint (n : Nat) : Bytes :=
  if n < 128 then [UInt8.ofNat n] else UInt8.ofNat (n % 128 + 128) :: writeVarint (n / 128)
termination_by n

/-- Reads a number of at most `room` bytes; of a tenth byte only the lowest bit counts. -/
def readVarintWithin : Nat → Bytes → Option (Nat × Bytes)
  | 0, _ => none
  | _, [] => none
  | room + 1, b :: rest =>
    if b < 128 then
      if room = 0 ∧ 2 ≤ b then none else some (b.toNat, rest)
    else
      (readVarintWithin room rest).map fun r => (b.toNat - 128 + 128 * r.1, r.2)

def readVarint (bs : Bytes) : Option (Nat × Bytes) := readVarintWithin 10 bs

theorem length_of_readVarintWithin {room n : Nat} {bs rest : Bytes}
    (h : readVarintWithin room bs = some (n, rest)) : rest.length < bs.length := by
  induction room generalizing n bs with
  | zero => simp [readVarintWithin] at h
  | succ room ih =>
    cases bs with
    | nil => simp [readVarintWithin] at h
    | cons b bs =>
      rw [readVarintWithin] at h
      split at h
      · split at h
        · cases h
        · simp only [Option.some.injEq, Prod.mk.injEq] at h
          obtain ⟨-, rfl⟩ := h
          simp
      · obtain ⟨⟨m, rest'⟩, hr, he⟩ := Option.map_eq_some_iff.1 h
        simp only [Prod.mk.injEq] at he
        obtain ⟨-, rfl⟩ := he
        have := ih hr
        simp only [List.length_cons]
        omega

theorem length_of_readVarint {n : Nat} {bs rest : Bytes} (h : readVarint bs = some (n, rest)) :
    rest.length < bs.length := length_of_readVarintWithin h

end ChannelLayer.Protobuf
