import ChannelLayer.Bytes
import ChannelLayer.Identifier

/-!
# Packet sequences

The packets of a channel end are numbered from one. A counter that has reached the largest 64-bit
number stays there.
-/

set_option autoImplicit false

namespace ChannelLayer

structure Sequence where
  number : UInt64
  deriving DecidableEq

namespace Sequence

instance : LT Sequence := ⟨fun a b => a.number < b.number⟩
instance : LE Sequence := ⟨fun a b => a.number ≤ b.number⟩
instance (a b : Sequence) : Decidable (a < b) := inferInstanceAs (Decidable (a.number < b.number))
instance (a b : Sequence) : Decidable (a ≤ b) := inferInstanceAs (Decidable (a.number ≤ b.number))

def zero : Sequence := ⟨0⟩

def one : Sequence := ⟨1⟩

/-- The largest sequence. -/
def last : Sequence := ⟨UInt64.ofNat (UInt64.size - 1)⟩

def next (s : Sequence) : Sequence := if s = last then last else ⟨s.number + 1⟩

def text (s : Sequence) : String := decimal s.number

def toBytes (s : Sequence) : Bytes := .ofUInt64 s.number

def ofText (s : String) : Except IdentifierError Sequence :=
  match Number.ofText s with
  | .ok n => .ok ⟨n⟩
  | .error e => .error (.sequence s e)

@[simp] theorem next_last : last.next = last := by simp [next]

theorem lt_next {s : Sequence} (h : s ≠ last) : s < s.next := by
  obtain ⟨n⟩ := s
  have hn : n.toNat ≠ UInt64.size - 1 := by
    intro hn
    exact h (congrArg Sequence.mk (UInt64.toNat_inj.1 (by simpa using hn)))
  have := n.toNat_lt
  simp only [next, if_neg h]
  show n < n + 1
  rw [UInt64.lt_iff_toNat_lt, UInt64.toNat_add]
  simp only [UInt64.size, UInt64.toNat_one] at *
  omega

end Sequence

end ChannelLayer
