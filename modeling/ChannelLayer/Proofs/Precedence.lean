import ChannelLayer.Proofs.Encoding
import ChannelLayer.Proofs.Orders
import ChannelLayer.Sample

/-!
# Crossing proposals are ordered

Each chain compares two crossing proposals alone, its own first. The comparison runs through five keys, the
sequence with its order turned round, so it is a total preorder as each key is, and the verdict on one chain
is the other chain's with the sides exchanged. The hops are no key: proposals that differ in nothing else tie.

* `precedence_orders_proposals`: the two verdicts, what ties, and that one win carries over to the next.
-/

set_option autoImplicit false

namespace ChannelLayer

namespace CrossingProposal

variable {p q r : CrossingProposal}

/-- The comparison key by key; a higher sequence sorts first. -/
theorem compare_eq_compareLex : CrossingProposal.compare =
    compareLex (fun p q => compareOn sequence q p)
      (compareLex (compareOn fun p => p.fields.version.text)
        (compareLex (compareOn fun p => p.fields.order.code)
          (compareLex (compareOn fun p => p.id.port.text) (compareOn fun p => p.id.channel.text)))) := rfl

instance : Std.TransCmp CrossingProposal.compare := by
  have hseq : Std.TransCmp fun p q : CrossingProposal => compareOn sequence q p :=
    @Std.TransCmp.opposite _ (compareOn sequence) _
  rw [compare_eq_compareLex]
  infer_instance

theorem compare_eq_iff : p.compare q = .eq ↔ p.sequence = q.sequence ∧
    p.fields.version = q.fields.version ∧ p.fields.order = q.fields.order ∧
    p.id.port = q.id.port ∧ p.id.channel = q.id.channel := by
  simp only [CrossingProposal.compare, Ordering.then_eq_eq, Std.LawfulEqCmp.compare_eq_iff_eq]
  constructor
  · rintro ⟨hseq, hversion, horder, hport, hchannel⟩
    exact ⟨hseq.symm, congrArg Version.mk hversion, ChannelOrder.code_inj (by rw [horder]),
      congrArg PortId.mk hport, congrArg ChannelId.mk hchannel⟩
  · rintro ⟨hseq, hversion, horder, hport, hchannel⟩
    rw [hseq, hversion, horder, hport, hchannel]
    exact ⟨rfl, rfl, rfl, rfl, rfl⟩

end CrossingProposal

section Verdict

variable {p q r : CrossingProposal}

theorem upgradePrecedence_eq_ours : upgradePrecedence p q = .ours ↔ p.compare q = .lt := by
  unfold upgradePrecedence
  cases p.compare q <;> simp

theorem upgradePrecedence_eq_theirs : upgradePrecedence p q = .theirs ↔ p.compare q = .gt := by
  unfold upgradePrecedence
  cases p.compare q <;> simp

theorem upgradePrecedence_eq_tie : upgradePrecedence p q = .tie ↔ p.compare q = .eq := by
  unfold upgradePrecedence
  cases p.compare q <;> simp

theorem upgradePrecedence_ne_theirs : upgradePrecedence p q ≠ .theirs ↔ (p.compare q).isLE := by
  unfold upgradePrecedence
  cases p.compare q <;> simp

/-- The own proposal goes ahead where the other chain's verdict is that it goes ahead. -/
theorem ours_iff_theirs : upgradePrecedence p q = .ours ↔ upgradePrecedence q p = .theirs := by
  rw [upgradePrecedence_eq_ours, upgradePrecedence_eq_theirs, ← CrossingProposal.compare_swap p q,
    Ordering.swap_eq_gt]

theorem tie_comm : upgradePrecedence p q = .tie ↔ upgradePrecedence q p = .tie := by
  rw [upgradePrecedence_eq_tie, upgradePrecedence_eq_tie, ← CrossingProposal.compare_swap p q,
    Ordering.swap_eq_eq]

theorem ours_trans (hpq : upgradePrecedence p q = .ours) (hqr : upgradePrecedence q r = .ours) :
    upgradePrecedence p r = .ours := by
  rw [upgradePrecedence_eq_ours] at hpq hqr ⊢
  exact Std.TransCmp.lt_trans hpq hqr

theorem ne_theirs_trans (hpq : upgradePrecedence p q ≠ .theirs) (hqr : upgradePrecedence q r ≠ .theirs) :
    upgradePrecedence p r ≠ .theirs := by
  rw [upgradePrecedence_ne_theirs] at hpq hqr ⊢
  exact Std.TransCmp.isLE_trans hpq hqr

/-- Of two proposals one need not give way. -/
theorem ne_theirs_total : upgradePrecedence p q ≠ .theirs ∨ upgradePrecedence q p ≠ .theirs := by
  by_cases h : upgradePrecedence p q = .theirs
  · exact .inr (not_theirs_of_theirs h)
  · exact .inl h

end Verdict

/-- Both chains come to one verdict, each from its own side. Not to give way is total and transitive, and so
is to go ahead; the proposals that tie are those alike in everything but the hops; and a proposal gives way to
none at a lower sequence. -/
theorem precedence_orders_proposals (p q r : CrossingProposal) :
    (upgradePrecedence p q = .ours ↔ upgradePrecedence q p = .theirs) ∧
    (upgradePrecedence p q = .tie ↔ upgradePrecedence q p = .tie) ∧
    (upgradePrecedence p q = .tie ↔ p.sequence = q.sequence ∧ p.fields.version = q.fields.version ∧
      p.fields.order = q.fields.order ∧ p.id.port = q.id.port ∧ p.id.channel = q.id.channel) ∧
    (upgradePrecedence p q = .ours → upgradePrecedence q r = .ours → upgradePrecedence p r = .ours) ∧
    (upgradePrecedence p q ≠ .theirs ∨ upgradePrecedence q p ≠ .theirs) ∧
    (upgradePrecedence p q ≠ .theirs → upgradePrecedence q r ≠ .theirs →
      upgradePrecedence p r ≠ .theirs) ∧
    (q.sequence < p.sequence → upgradePrecedence p q ≠ .theirs) := by
  refine ⟨ours_iff_theirs, tie_comm, ?_, ours_trans, ne_theirs_total, ne_theirs_trans, ?_⟩
  · rw [upgradePrecedence_eq_tie, CrossingProposal.compare_eq_iff]
  · intro hlt htheirs
    exact UInt64.not_lt.2 (sequence_le_of_theirs htheirs) hlt

/-- The proposal of one end at sequence 2 goes before one at sequence 1, and that before one of the same
sequence whose version sorts higher. -/
theorem higher_sequence_goes_first :
    let p : CrossingProposal := ⟨2, Sample.upgradeFields .ordered ⟨"dummy-3"⟩, Sample.endId⟩
    let q : CrossingProposal := ⟨1, Sample.upgradeFields .ordered ⟨"dummy-1"⟩, Sample.endId⟩
    let r : CrossingProposal := ⟨1, Sample.upgradeFields .unordered ⟨"dummy-2"⟩, Sample.endId⟩
    upgradePrecedence p q = .ours ∧ upgradePrecedence q r = .ours ∧ upgradePrecedence p r = .ours ∧
      upgradePrecedence p r ≠ .theirs := by
  intro p q r
  have hpq : upgradePrecedence p q = .ours := by decide +kernel
  have hqr : upgradePrecedence q r = .ours := by decide +kernel
  obtain ⟨-, -, -, htrans, -, hkeep, hhigher⟩ := precedence_orders_proposals p q r
  have hstays : upgradePrecedence p q ≠ .theirs := hhigher (by decide)
  exact ⟨hpq, hqr, htrans hpq hqr, hkeep hstays (by rw [hqr]; decide)⟩

end ChannelLayer
