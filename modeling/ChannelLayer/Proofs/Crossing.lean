import ChannelLayer.Proofs.Agreement

/-!
# Proposals that cross

Both ends of a channel may propose an upgrade, and each decides alone whether to give way, from what it has
been shown of the other. They never both do. An end that gives way has seen the other one propose, in the
attempt that it answers (`Run.reached_by_answered`); so two ends that both had given way would be in one
attempt, and there each would have been shown the other's only proposal and found it to go first
(`Run.not_both_answer`).
-/

set_option autoImplicit false

namespace ChannelLayer.Run

section
variable [Digest] {run : Run} {x : Side} {i : Nat} {id remote : EndId} {c d : ChannelEnd}

/-- The end that is answered is joined to the one that answers, and has got to the attempt. -/
theorem reached_by_answered (h : run.Honest) (hcount : run.Counting) (hclimb : run.Climbing)
    (hc : (run.record x i id).channel = some c) (hstate : c.state = .tryUpgrade)
    (hto : c.remote = .ofEnd remote) (hd : (run.record x.other i remote).channel = some d) :
    d.remote = .ofEnd id ∧ c.upgradeSequence.toNat ≤ d.upgradeSequence.toNat := by
  obtain ⟨u, hu⟩ := (orderly h x i id).exists_upgrade hc (by rw [hstate]; rfl)
  obtain ⟨remote', j, d₀, p, hto', hji, hmatched, hinit, -⟩ := answered h hcount hclimb hc hstate hu
  obtain rfl := Counterparty.ofEnd_inj (hto.symm.trans hto')
  obtain ⟨d', hd', -, hback, -⟩ :=
    stays_joined h (Nat.le_of_lt hji) hmatched.there (by rw [hinit]; rfl)
  obtain rfl := Option.some.inj (hd.symm.trans hd')
  refine ⟨hback.trans hmatched.back, ?_⟩
  have hphase₀ := ChannelRecord.phase_of hmatched.there
  have hphase := ChannelRecord.phase_of hd
  have hmono := phase_le h hcount x.other remote (Nat.le_of_lt hji)
  have hrank := d.state.rank_le
  rw [hmatched.sequence] at hphase₀
  omega

/-- Of the two ends of a channel at most one is answering the other. -/
theorem at_most_one_answers (h : run.Honest) (hcount : run.Counting) (hclimb : run.Climbing)
    (hc : (run.record x i id).channel = some c) (hto : c.remote = .ofEnd remote)
    (hd : (run.record x.other i remote).channel = some d) :
    ¬(c.state = .tryUpgrade ∧ d.state = .tryUpgrade) := by
  rintro ⟨hstate, hstate'⟩
  obtain ⟨hback, hle⟩ := reached_by_answered h hcount hclimb hc hstate hto hd
  obtain ⟨-, hge⟩ := reached_by_answered (x := x.other) h hcount hclimb hd hstate' hback
    (by simpa using hc)
  have hseq : d.upgradeSequence = c.upgradeSequence := UInt64.toNat_inj.1 (Nat.le_antisymm hge hle)
  exact not_both_answer h hcount hclimb hc hstate hto hd hstate' hseq

end

/-! ## Proposals that cross, at any block and at the last one -/

section
attribute [local instance] Digest.plain

open Sample (endId channel second gets hears answering within signer)

/-- What goes second beside `second`, and what goes third. -/
def third : UpgradeFields := Sample.upgradeFields .unordered ⟨"dummy-3"⟩

def fourth : UpgradeFields := Sample.upgradeFields .unordered ⟨"dummy-4"⟩

/-- An end proposes `f`. -/
def proposing (x : Side) (f : UpgradeFields) : Step :=
  gets x (.upgradeInit ⟨endId, f, within 1000, signer⟩)

/-- Both ends propose, and each is told of the other's proposal. -/
def crossing : Run :=
  let c := channel .opened .unordered 0
  ⟨Sample.joined 5, Sample.opening .unordered 6 7 ++
    [proposing .a second, proposing .b third, hears .a, hears .b,
      gets .b (answering c second (within 1000) 8), gets .a (answering c third (within 1000) 8)]⟩

theorem crossing_facts : (∀ i, i < crossing.steps.length → crossing.TruthfulAt i) ∧
    crossing.Counting ∧ crossing.Climbing ∧
    (crossing.record .b 13 endId).channel = some (channel .tryUpgrade .unordered 1) ∧
    (crossing.record .a 13 endId).channel = some (channel .initUpgrade .unordered 1) := by
  decide +kernel

/-- Chain `b` gives way, and so `a` does not. -/
theorem one_answers_when_crossing : ∃ c d, (crossing.record .b 13 endId).channel = some c ∧
    c.state = .tryUpgrade ∧ (crossing.record .a 13 endId).channel = some d ∧ d.state ≠ .tryUpgrade :=
  have ⟨htrue, hcount, hclimb, hc, hd⟩ := crossing_facts
  ⟨_, _, hc, rfl, hd, fun hstate => at_most_one_answers (Sample.honest_of_truthful htrue) hcount hclimb
    hc rfl hd ⟨rfl, hstate⟩⟩

/-- Chain `a` stands at the last block. Both ends propose the same and drop it again, and then `a` proposes
what goes behind the proposal of `b`, and gives way. At the height of `a` lie its new end and the upgrade that
it proposed at first, which goes before the proposal of `b`. -/
def crossingAtLastBlock : Run :=
  let c := channel .opened .unordered 0
  let later := channel .opened .unordered 2
  let top := Height.lastBlock
  let receipt : ErrorReceipt := ⟨1, (UpgradeError.indistinguishable 1).message⟩
  ⟨Sample.joined top, Sample.opening .unordered top top ++
    [proposing .a second, proposing .b second, hears .a, gets .a (answering c second (within 1000) 8),
      hears .b,
      gets .b (.upgradeCancel ⟨endId, receipt, Sample.proofAt top (.upgradeError endId) receipt.encode,
        ⟨0, top⟩, signer⟩),
      proposing .a fourth, proposing .b third, hears .a,
      gets .a (answering later third (within 1000) 10), hears .b,
      gets .b (answering later second (within 1000) top)]⟩

theorem crossingAtLastBlock_facts :
    (∀ i, i < crossingAtLastBlock.steps.length → crossingAtLastBlock.TruthfulAt i) ∧
    crossingAtLastBlock.Counting ∧
    (crossingAtLastBlock.record .a 19 endId).channel = some (channel .tryUpgrade .unordered 3) ∧
    (crossingAtLastBlock.record .b 19 endId).channel = some (channel .tryUpgrade .unordered 3) := by
  decide +kernel

/-- At the last block both ends of one channel give way. -/
theorem both_answer_at_last_block : crossingAtLastBlock.Honest ∧ crossingAtLastBlock.Counting ∧
    ∃ c d, (crossingAtLastBlock.record .a 19 endId).channel = some c ∧ c.remote = .ofEnd endId ∧
      (crossingAtLastBlock.record .b 19 endId).channel = some d ∧ d.remote = .ofEnd endId ∧
      c.state = .tryUpgrade ∧ d.state = .tryUpgrade :=
  have ⟨htrue, hcount, hc, hd⟩ := crossingAtLastBlock_facts
  ⟨Sample.honest_of_truthful htrue, hcount, _, _, hc, rfl, hd, rfl, rfl, rfl⟩

end

end ChannelLayer.Run
