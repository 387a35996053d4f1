import ChannelLayer.Host
import ChannelLayer.Sequence
import ChannelLayer.Upgrading.Precedence

/-!
# Counters, clocks and proposals

Sequences, heights and timestamps are ordered like the numbers they hold. A block number and a clock never
go back, and a block number stays only where it has reached the last one. Of two crossing proposals at most
one gives way.
-/

set_option autoImplicit false

namespace ChannelLayer

namespace Sequence

theorem lt_iff {a b : Sequence} : a < b ↔ a.number.toNat < b.number.toNat := Iff.rfl

theorem le_iff {a b : Sequence} : a ≤ b ↔ a.number.toNat ≤ b.number.toNat := Iff.rfl

theorem eq_of_toNat {a b : Sequence} (h : a.number.toNat = b.number.toNat) : a = b := by
  obtain ⟨a⟩ := a
  obtain ⟨b⟩ := b
  exact congrArg mk (UInt64.toNat_inj.1 h)

theorem eq_of_not_lt {a b : Sequence} (hab : ¬a < b) (hba : ¬b < a) : a = b := by
  rw [lt_iff] at hab hba
  apply eq_of_toNat
  omega

theorem le_next (s : Sequence) : s ≤ s.next := by
  by_cases h : s = last
  · subst h
    rw [next_last]
    exact UInt64.le_refl _
  · exact UInt64.le_of_lt (lt_next h)

theorem lt_trans {a b c : Sequence} (hab : a < b) (hbc : b < c) : a < c := UInt64.lt_trans hab hbc

theorem lt_of_lt_of_le {a b c : Sequence} (hab : a < b) (hbc : b ≤ c) : a < c := by
  rw [lt_iff] at hab ⊢
  rw [le_iff] at hbc
  omega

theorem le_trans {a b c : Sequence} (hab : a ≤ b) (hbc : b ≤ c) : a ≤ c := UInt64.le_trans hab hbc

theorem not_le {a b : Sequence} : ¬a ≤ b ↔ b < a := by
  rw [lt_iff, le_iff]
  omega

theorem lt_irrefl (a : Sequence) : ¬a < a := UInt64.lt_irrefl _

theorem ne_last_of_lt {a b : Sequence} (h : a < b) : a ≠ last := by
  rintro rfl
  have hb := b.number.toNat_lt
  rw [lt_iff] at h
  simp only [last, UInt64.size] at h
  simp at h
  omega

theorem toNat_next {s : Sequence} (h : s ≠ last) : s.next.number.toNat = s.number.toNat + 1 := by
  have hlt := s.number.toNat_lt
  have hne : s.number.toNat ≠ UInt64.size - 1 := by
    intro heq
    apply h
    obtain ⟨number⟩ := s
    exact congrArg mk (UInt64.toNat_inj.1 heq)
  simp only [UInt64.size] at hne
  unfold next
  rw [if_neg h, UInt64.toNat_add, UInt64.toNat_one]
  omega

theorem next_le_of_lt {a b : Sequence} (h : a < b) : a.next ≤ b := by
  rw [le_iff, toNat_next (ne_last_of_lt h)]
  exact lt_iff.1 h

theorem one_le_next {s : Sequence} (h : s ≠ last) : one ≤ s.next := by
  rw [le_iff, toNat_next h]
  exact Nat.le_add_left 1 _

end Sequence

/-! ## Clocks -/

namespace Height

theorem le_refl (h : Height) : h ≤ h := .inr ⟨rfl, UInt64.le_refl _⟩

theorem zero_le (h : Height) : (⟨0, 0⟩ : Height) ≤ h := by
  show 0 < h.revision ∨ 0 = h.revision ∧ 0 ≤ h.block
  by_cases hrevision : 0 = h.revision
  · exact .inr ⟨hrevision, UInt64.zero_le⟩
  · left
    rw [UInt64.lt_iff_toNat_lt]
    have hne : h.revision.toNat ≠ 0 := fun heq => hrevision (UInt64.toNat_inj.1 heq.symm)
    exact Nat.pos_of_ne_zero hne

theorem le_trans {a b c : Height} (hab : a ≤ b) (hbc : b ≤ c) : a ≤ c := by
  rcases hab with hab | ⟨hr, hab⟩
  · rcases hbc with hbc | ⟨hr', -⟩
    · exact .inl (UInt64.lt_trans hab hbc)
    · exact .inl (hr' ▸ hab)
  · rcases hbc with hbc | ⟨hr', hbc⟩
    · exact .inl (hr ▸ hbc)
    · exact .inr ⟨hr.trans hr', UInt64.le_trans hab hbc⟩

theorem le_antisymm {a b : Height} (hab : a ≤ b) (hba : b ≤ a) : a = b := by
  obtain ⟨r, n⟩ := a
  obtain ⟨r', n'⟩ := b
  rcases hab with hab | ⟨hr, hab⟩
  · rcases hba with hba | ⟨hr, -⟩
    · exact absurd (UInt64.lt_trans hab hba) (UInt64.lt_irrefl _)
    · exact absurd (hr ▸ hab) (UInt64.lt_irrefl _)
  · rcases hba with hba | ⟨-, hba⟩
    · exact absurd (hr ▸ hba) (UInt64.lt_irrefl _)
    · exact (mk.injEq ..).symm ▸ ⟨hr, UInt64.le_antisymm hab hba⟩

/-- The last block number. -/
def lastBlock : UInt64 := UInt64.ofNat (UInt64.size - 1)

theorem le_next (h : Height) : h ≤ h.next := by
  refine .inr ⟨rfl, ?_⟩
  simp only [next, add]
  split
  · rename_i hlt
    rw [UInt64.le_iff_toNat_le, UInt64.toNat_add]
    simp only [UInt64.size, UInt64.toNat_one] at *
    omega
  · rw [UInt64.le_iff_toNat_le]
    have := h.block.toNat_lt
    simp only [UInt64.size] at *
    exact Nat.le_of_lt_succ this

/-- Below the last block number, the next block is another one. -/
theorem next_ne {h : Height} (hlast : h.block ≠ lastBlock) : h.next ≠ h := by
  intro heq
  have hblock := congrArg (fun h : Height => h.block.toNat) heq
  have hlt : h.block.toNat + 1 < UInt64.size := by
    have := h.block.toNat_lt
    have hne : h.block.toNat ≠ lastBlock.toNat := fun h => hlast (UInt64.toNat_inj.1 h)
    simp only [lastBlock, UInt64.size] at *
    simp at hne
    omega
  simp only [next, add, UInt64.toNat_one, hlt, if_true, UInt64.toNat_add] at hblock
  simp only [UInt64.size] at hlt
  omega

theorem toNat_block_next {h : Height} (hlast : h.block ≠ lastBlock) :
    h.next.block.toNat = h.block.toNat + 1 := by
  have hlt := h.block.toNat_lt
  have hne : h.block.toNat ≠ UInt64.size - 1 := by
    intro heq
    apply hlast
    apply UInt64.toNat_inj.1
    rw [heq]
    rfl
  simp only [UInt64.size] at hne
  unfold next add
  rw [if_pos (by simp only [UInt64.size, UInt64.toNat_one]; omega), UInt64.toNat_add, UInt64.toNat_one]
  omega

end Height

namespace Timestamp

theorem le_refl (t : Timestamp) : t ≤ t := UInt64.le_refl _

theorem zero_le (t : Timestamp) : (⟨0⟩ : Timestamp) ≤ t := UInt64.zero_le

theorem le_antisymm {a b : Timestamp} (hab : a ≤ b) (hba : b ≤ a) : a = b :=
  congrArg mk (UInt64.le_antisymm hab hba)

theorem le_trans {a b c : Timestamp} (hab : a ≤ b) (hbc : b ≤ c) : a ≤ c := UInt64.le_trans hab hbc

theorem le_advance (t : Timestamp) (duration : UInt64) : t ≤ t.advance duration := by
  have ht := t.nanos.toNat_lt
  unfold advance ofNat?
  split
  · rename_i t' h
    split at h
    · rename_i hlt
      obtain rfl := Option.some.inj h
      show t.nanos ≤ UInt64.ofNat _
      rw [UInt64.le_iff_toNat_le, UInt64.toNat_ofNat', Nat.mod_eq_of_lt hlt]
      omega
    · cases h
  · show t.nanos ≤ UInt64.ofNat _
    rw [UInt64.le_iff_toNat_le, UInt64.toNat_ofNat']
    simp only [UInt64.size]
    omega

end Timestamp

/-- A deadline that has passed stays passed. -/
theorem UpgradeTimeout.hasElapsed_mono {t : UpgradeTimeout} {h h' : Height} {time time' : Timestamp}
    (hh : h ≤ h') (htime : time ≤ time') (helapsed : t.hasElapsed h time = true) :
    t.hasElapsed h' time' = true := by
  obtain ⟨height, stamp⟩ := t
  simp only [hasElapsed, Bool.or_eq_true] at helapsed ⊢
  refine helapsed.imp (fun hpassed => ?_) (fun hpassed => ?_)
  · cases height with
    | never => cases hpassed
    | «at» bound =>
      simp only [TimeoutHeight.hasExpired, decide_eq_true_eq] at hpassed ⊢
      exact Height.le_trans hpassed hh
  · cases stamp with
    | never => cases hpassed
    | «at» bound =>
      simp only [TimeoutTimestamp.hasExpired, decide_eq_true_eq] at hpassed ⊢
      exact Timestamp.le_trans hpassed htime

/-! ## Crossing proposals -/

/-- An own proposal gives way only to one at a sequence no lower. -/
theorem sequence_le_of_theirs {p q : CrossingProposal} (h : upgradePrecedence p q = .theirs) :
    p.sequence ≤ q.sequence := by
  refine UInt64.not_lt.1 fun hlt => ?_
  have hcmp : compare q.sequence p.sequence = .lt := by
    simp [compare, compareOfLessAndEq, hlt]
  simp [upgradePrecedence, CrossingProposal.compare, hcmp] at h

/-- Two proposals that cannot be told apart are at one sequence. -/
theorem sequence_eq_of_tie {p q : CrossingProposal} (h : upgradePrecedence p q = .tie) :
    p.sequence = q.sequence := by
  have hcmp : Ord.compare q.sequence p.sequence = .eq := by
    unfold upgradePrecedence at h
    split at h
    · cases h
    · cases h
    · rename_i heq
      exact (Ordering.then_eq_eq.1 heq).1
  exact (Std.LawfulEqCmp.eq_of_compare hcmp).symm

theorem CrossingProposal.compare_swap (p q : CrossingProposal) :
    (p.compare q).swap = q.compare p := by
  have hseq : (Ord.compare q.sequence p.sequence).swap = Ord.compare p.sequence q.sequence :=
    Std.OrientedCmp.eq_swap.symm
  have htext (s t : String) : (Ord.compare s t).swap = Ord.compare t s := Std.OrientedCmp.eq_swap.symm
  have hcode : (Ord.compare p.fields.order.code q.fields.order.code).swap =
      Ord.compare q.fields.order.code p.fields.order.code := Std.OrientedCmp.eq_swap.symm
  simp only [CrossingProposal.compare, Ordering.swap_then, hseq, htext, hcode]

/-- The two ends do not both give way. -/
theorem not_theirs_of_theirs {p q : CrossingProposal} (h : upgradePrecedence p q = .theirs) :
    upgradePrecedence q p ≠ .theirs := by
  unfold upgradePrecedence at h ⊢
  rw [← CrossingProposal.compare_swap p q]
  cases hcmp : p.compare q <;> simp_all

end ChannelLayer
