import ChannelLayer.Proofs.Agreement

/-!
# What becomes of a cancelled attempt

A flushed end cancels on an error receipt of its attempt. Mostly the other end left it when it gave the
attempt up, and then nobody ever commits it. But an end that has committed the attempt leaves such a
receipt too, if it is still open at that number when it refuses an outdated proposal. `Run.cancelled`
tells the two apart.
-/

set_option autoImplicit false

namespace ChannelLayer.Run

section
variable [Digest] (run : Run) (x : Side) (i : Nat)

/-- In step `i` the end `id` leaves an error receipt of attempt `n`. -/
def LeavesReceipt (id : EndId) (n : UInt64) : Prop :=
  ∃ info state receipt, Event.upgradeError info state receipt ∈ run.happens x i id ∧
    receipt.sequence = n

/-- In step `i` the end `id`, which is in attempt `n`, gives it up with an error receipt. -/
def GivesUp (id : EndId) (n : UInt64) : Prop :=
  run.LeavesReceipt x i id n ∧ ∃ c, (run.record x i id).channel = some c ∧
    c.state.isUpgrading = true ∧ c.upgradeSequence = n

/-- In step `i` the end `id`, which is open and has attempt `n` behind it, leaves an error receipt of it. -/
def Refuses (id : EndId) (n : UInt64) : Prop :=
  run.LeavesReceipt x i id n ∧ ∃ c, (run.record x i id).channel = some c ∧
    c.state = .opened ∧ c.upgradeSequence = n

end

section
variable [Digest] {run : Run} {x : Side} {i j : Nat} {id remote : EndId} {c d : ChannelEnd} {n : UInt64}

/-! ## Where a receipt comes from -/

theorem left_of_receipt (h : run.Honest) {e : ErrorReceipt}
    (he : (run.record x i id).errorReceipt = some e) :
    ∃ t, t < i ∧ (run.record x (t + 1) id).errorReceipt = some e ∧
      run.LeavesReceipt x t id e.sequence ∧ ∃ c, (run.record x t id).channel = some c ∧
        c.upgradeSequence ≤ e.sequence ∧ (c.state.isUpgrading = true ∨ c.state = .opened) := by
  induction i with
  | zero =>
    rw [record_zero h] at he
    cases he
  | succ i ih =>
    rcases (turn h x i id).of_receipt (orderly h x i id) he with
        hold | ⟨c, info, state, hc, hmem, hle, hstate⟩
    · obtain ⟨t, hti, hleft⟩ := ih hold
      exact ⟨t, Nat.lt_succ_of_lt hti, hleft⟩
    · exact ⟨i, Nat.lt_succ_self i, he, ⟨info, state, e, hmem, rfl⟩, c, hc, hle, hstate⟩

section
variable (h : run.Honest) (hcount : run.Counting)

include h hcount

/-- The step that ends an attempt with no later one begun commits it or closes the channel. -/
theorem committed_or_closed (hji : j ≤ i) (hc : (run.record x j id).channel = some c)
    (hto : c.remote = .ofEnd remote)
    (hin : (run.record x i id).phase ≤ 5 * c.upgradeSequence.toNat + 3)
    (hover : (run.record x (i + 1) id).phase = 5 * c.upgradeSequence.toNat + 4) :
    (∃ c', (run.record x (i + 1) id).channel = some c' ∧ c'.state = .closed) ∨
      ∃ f, run.Commits x i id remote c.upgradeSequence f := by
  have hlo : 5 * c.upgradeSequence.toNat ≤ (run.record x j id).phase := by
    rw [ChannelRecord.phase_of hc]
    exact Nat.le_add_right _ _
  obtain ⟨c₁, hkept⟩ := kept h hcount hji hlo hin hc
  have hphase₁ := ChannelRecord.phase_of hkept.channel
  rw [hkept.sequence] at hphase₁
  have hupgrading : c₁.state.isUpgrading = true := ChannelState.rank_lt_iff.1 (by omega)
  obtain ⟨c₂, hc₂, -⟩ := (turn h x i id).of_joined hkept.channel
    (ChannelState.isJoined_of_isUpgrading hupgrading)
  have hphase₂ := ChannelRecord.phase_of hc₂
  have hrank := c₂.state.rank_le
  have hidle : c₂.state.isUpgrading = false := by
    rw [← Bool.not_eq_true, ← ChannelState.rank_lt_iff]
    omega
  have hseq : c₂.upgradeSequence = c₁.upgradeSequence := by
    rw [hkept.sequence]
    exact UInt64.toNat_inj.1 (by omega)
  obtain hclosed | hcommits := (turn h x i id).of_ending (hcount (i + 1) x id) hkept.channel hupgrading
    hc₂ hidle hseq
  · exact .inl ⟨c₂, hc₂, hclosed⟩
  · obtain ⟨u, -, hcommit⟩ := commits_of_turn (hkept.remote.trans hto) hcommits
    exact .inr ⟨u.fields, hkept.sequence ▸ hcommit⟩

/-- An end that has been in an attempt and is open at its number has committed it. -/
theorem committed_of_open (hji : j ≤ i) (hc : (run.record x j id).channel = some c)
    (hstate : c.state.isUpgrading = true) (hto : c.remote = .ofEnd remote)
    (hd : (run.record x i id).channel = some d) (hopen : d.state = .opened)
    (hseq : d.upgradeSequence = c.upgradeSequence) :
    ∃ k f, k < i ∧ run.Commits x k id remote c.upgradeSequence f := by
  -- The end is in the attempt still, or has committed it, or is closed, or is in a later one.
  have hfate : (run.record x i id).phase ≤ 5 * c.upgradeSequence.toNat + 3 ∨
      (∃ k f, k < i ∧ run.Commits x k id remote c.upgradeSequence f) ∨
      (∃ c', (run.record x i id).channel = some c' ∧ c'.state = .closed) ∨
      5 * c.upgradeSequence.toNat + 5 ≤ (run.record x i id).phase := by
    clear hd
    induction hji with
    | refl =>
      have hrank := ChannelState.rank_lt_iff.2 hstate
      have hphase := ChannelRecord.phase_of hc
      exact .inl (by omega)
    | @step i hji ih =>
      rcases ih with hin | ⟨k, f, hki, hcommit⟩ | ⟨c', hc', hclosed⟩ | hlater
      · by_cases hover : (run.record x (i + 1) id).phase = 5 * c.upgradeSequence.toNat + 4
        · rcases committed_or_closed h hcount hji hc hto hin hover with hclosed | ⟨f, hcommit⟩
          · exact .inr (.inr (.inl hclosed))
          · exact .inr (.inl ⟨i, f, Nat.lt_succ_self i, hcommit⟩)
        · simp only [Nat.succ_eq_add_one]
          omega
      · exact .inr (.inl ⟨k, f, Nat.lt_succ_of_lt hki, hcommit⟩)
      · exact .inr (.inr (.inl ((turn h x i id).of_closed (orderly h x i id) hc' hclosed)))
      · exact .inr (.inr (.inr (Nat.le_trans hlater (phase_le h hcount x id (Nat.le_succ i)))))
  have hphase := ChannelRecord.phase_of hd
  rw [hopen, hseq] at hphase
  simp only [ChannelState.rank] at hphase
  rcases hfate with hin | hcommitted | ⟨c', hc', hclosed⟩ | hlater
  · omega
  · exact hcommitted
  · obtain rfl := Option.some.inj (hd.symm.trans hc')
    rw [hopen] at hclosed
    cases hclosed
  · omega

/-- An end that leaves a receipt of an attempt that it has been in gives the attempt up, or it is open and
refuses. -/
theorem gives_up_or_refuses {e : ErrorReceipt} (he : (run.record x i id).errorReceipt = some e)
    (hc : (run.record x j id).channel = some c) (hstate : c.state.isUpgrading = true)
    (hseq : c.upgradeSequence = e.sequence) :
    ∃ t, t < i ∧ (run.record x (t + 1) id).errorReceipt = some e ∧
      (run.GivesUp x t id e.sequence ∨ run.Refuses x t id e.sequence) := by
  obtain ⟨t, hti, hleft, hleaves, d, hd, hle, hd'⟩ := left_of_receipt h he
  refine ⟨t, hti, hleft, ?_⟩
  have hphase := ChannelRecord.phase_of hc
  have hphase' := ChannelRecord.phase_of hd
  have hrank := ChannelState.rank_lt_iff.2 hstate
  have hrank' := d.state.rank_le
  have hover := receipt_le h hcount x (t + 1) id e hleft
  have hle := UInt64.le_iff_toNat_le.1 hle
  rw [hseq] at hphase
  -- The world where the end was in the attempt lies before the receipt.
  have hjt : j ≤ t := by
    have hlt : (run.record x j id).phase < (run.record x (t + 1) id).phase := by omega
    exact Nat.le_of_lt_succ (lt_of_phase_lt h hcount x id hlt)
  have hmono := phase_le h hcount x id hjt
  have hsame : d.upgradeSequence = e.sequence := UInt64.toNat_inj.1 (by omega)
  rcases hd' with hupgrading | hopen
  · exact .inl ⟨hleaves, d, hd, hupgrading, hsame⟩
  · exact .inr ⟨hleaves, d, hd, hopen, hsame⟩

/-- An attempt that is given up is never committed. -/
theorem not_commits_of_gives_up {e : ErrorReceipt} {t k : Nat} {f : UpgradeFields}
    (he : (run.record x (t + 1) id).errorReceipt = some e) (hgives : run.GivesUp x t id e.sequence) :
    ¬run.Commits x k id remote e.sequence f := by
  intro hcommit
  obtain ⟨-, c, hc, hupgrading, hseq⟩ := hgives
  have hphase := ChannelRecord.phase_of hc
  have hrank := ChannelState.rank_lt_iff.2 hupgrading
  have hover := receipt_le h hcount x (t + 1) id e he
  obtain ⟨-, hin, hdone⟩ := hcommit.phase h
  rw [hseq] at hphase
  rcases Nat.lt_trichotomy k t with hkt | rfl | htk
  · have hmono := phase_le h hcount x id (show k + 1 ≤ t from hkt)
    omega
  · -- The step that commits leaves the receipt as it was.
    obtain ⟨d, u, w, -, -, -, -, -, -, hrecord⟩ := hcommit.grounds h
    rw [hrecord, ChannelRecord.errorReceipt_commit] at he
    have hbefore := receipt_le h hcount x k id e he
    omega
  · have hmono := phase_le h hcount x id (show t + 1 ≤ k from htk)
    omega

end

/-! ## Cancelling -/

/-- What a flushed end cancels on is a receipt that the other end kept. -/
theorem Accepts.receipt (h : run.Honest) {m : Message.UpgradeCancel}
    (haccepts : run.Accepts x i (.upgradeCancel m)) (hc : (run.record x i m.id).channel = some c)
    (hstate : c.state = .flushComplete) :
    ∃ remote j, c.remote = .ofEnd remote ∧ j ≤ i ∧ m.receipt.sequence = c.upgradeSequence ∧
      (run.record x.other j remote).errorReceipt = some m.receipt := by
  obtain ⟨_, app, -, hvalid⟩ := haccepts.valid
  obtain ⟨c', u, remote, hc', hu, hto, -, hflushed, j, hji, -, hvalue⟩ :=
    Message.UpgradeCancel.shown (fits h (standing h x i) haccepts.1) hvalid
  obtain rfl := Option.some.inj (hc.symm.trans hc')
  obtain ⟨e, he, hencode⟩ := Option.map_eq_some_iff.1 hvalue
  obtain rfl := ErrorReceipt.encode_inj hencode
  exact ⟨remote, j, hto, hji, hflushed hstate, he⟩

/-- What a flushed end cancels the other one has given up, unless it has committed it. The two are told
apart by whether it has refused an outdated proposal while it was open at that attempt. -/
theorem cancelled (h : run.Honest) (hcount : run.Counting) {m : Message.UpgradeCancel}
    (haccepts : run.Accepts x i (.upgradeCancel m)) (hc : (run.record x i m.id).channel = some c)
    (hstate : c.state = .flushComplete) :
    ∃ remote, c.remote = .ofEnd remote ∧
      ((∃ k id f, run.Commits x.other k remote id c.upgradeSequence f) ↔
        ∃ t, t < i ∧ run.Refuses x.other t remote c.upgradeSequence) ∧
      ((∀ t, t < i → ¬run.Refuses x.other t remote c.upgradeSequence) →
        ∃ t, t < i ∧ run.GivesUp x.other t remote c.upgradeSequence) := by
  obtain ⟨remote, j, hto, hji, hseq, he⟩ := haccepts.receipt h hc hstate
  obtain ⟨remote', k, d, hto', -, hfacing, hn, hupgrading, -⟩ := faced h hc (by rw [hstate]; rfl)
  obtain rfl := Counterparty.ofEnd_inj (hto.symm.trans hto')
  obtain ⟨t, htj, hleft, hcase⟩ :=
    gives_up_or_refuses h hcount he hfacing.there hupgrading (hn.trans hseq.symm)
  have hti : t < i := Nat.lt_of_lt_of_le htj hji
  rw [hseq] at hcase
  refine ⟨remote, hto, ⟨fun ⟨l, id, f, hcommit⟩ => ?_, fun ⟨l, hli, hrefuses⟩ => ?_⟩, fun hnever => ?_⟩
  · rcases hcase with hgives | hrefuses
    · rw [← hseq] at hgives hcommit
      exact absurd hcommit (not_commits_of_gives_up h hcount hleft hgives)
    · exact ⟨t, hti, hrefuses⟩
  · obtain ⟨-, e, he, hopen, hsame⟩ := hrefuses
    -- The end was in the attempt before it was open behind it.
    have hphase := ChannelRecord.phase_of hfacing.there
    have hphase' := ChannelRecord.phase_of he
    have hrank := ChannelState.rank_lt_iff.2 hupgrading
    rw [hn] at hphase
    rw [hopen, hsame] at hphase'
    simp only [ChannelState.rank] at hphase'
    have hkl : k < l := lt_of_phase_lt h hcount x.other remote (by omega)
    obtain ⟨k', f, -, hcommit⟩ := committed_of_open h hcount (Nat.le_of_lt hkl) hfacing.there hupgrading
      hfacing.back he hopen (hsame.trans hn.symm)
    exact ⟨k', m.id, f, hn ▸ hcommit⟩
  · exact ⟨t, hti, hcase.resolve_right (hnever t hti)⟩

end

/-! ## A cancellation of either kind -/

section
attribute [local instance] Digest.plain

open Sample (endId channel second)

def cancellation (receipt : ErrorReceipt) (block : UInt64) : Message.UpgradeCancel :=
  ⟨endId, receipt, Sample.proofAt block (.upgradeError endId) receipt.encode, ⟨0, block⟩, Sample.signer⟩

/-- What chain `b` leaves when it learns too late that `a` has flushed. -/
def lateReceipt : ErrorReceipt :=
  ⟨1, (UpgradeError.timeoutElapsed (Sample.within 60) ⟨0, 8⟩
    ⟨Sample.startTime.nanos + 109000000000⟩).message⟩

def givenUp : Run :=
  let c := channel .opened .unordered 0
  let deadline := Sample.within 60
  ⟨Sample.joined 5, Sample.opening .unordered 6 7 ++ Sample.joining c second deadline 8 8 ++
    [⟨.b, .advanceTime 100000000000⟩] ++ Sample.confirming c ⟨second, deadline, .one⟩ 9 ++
    [Sample.hears .a, Sample.gets .a (.upgradeCancel (cancellation lateReceipt 9))]⟩

theorem givenUp_facts : (∀ i, i < givenUp.steps.length → givenUp.TruthfulAt i) ∧ givenUp.Counting ∧
    (givenUp.steps[16]? = some ⟨.a, .deliver (.upgradeCancel (cancellation lateReceipt 9))⟩ ∧
      (givenUp.chain .a 16).validate (.upgradeCancel (cancellation lateReceipt 9)) = .ok ()) ∧
    (givenUp.record .a 16 endId).channel = some (channel .flushComplete .unordered 1) := by
  decide +kernel

/-- In this run the other end gave the attempt up. -/
theorem cancelled_of_given_up : ∃ remote, Counterparty.ofEnd endId = .ofEnd remote ∧
      ((∃ k id f, givenUp.Commits .b k remote id 1 f) ↔ ∃ t, t < 16 ∧ givenUp.Refuses .b t remote 1) ∧
      ((∀ t, t < 16 → ¬givenUp.Refuses .b t remote 1) → ∃ t, t < 16 ∧ givenUp.GivesUp .b t remote 1) :=
  have ⟨htrue, hcount, haccepts, hc⟩ := givenUp_facts
  cancelled (Sample.honest_of_truthful htrue) hcount haccepts hc rfl

/-- Both chains go from `dummy-1` to `dummy-2`. On the way back, when `b` has committed and `a` is flushed,
the first proposal is replayed on `b`. -/
def replayed : Run :=
  let c := channel .opened .unordered 0
  let c' := (Message.UpgradeInit.proposed c).upgraded second
  let deadline := Sample.upgradeTimeout
  ⟨Sample.joined 5, Sample.opening .unordered 6 7 ++ Sample.joining c second deadline 8 8 ++
    Sample.confirming c ⟨second, deadline, .one⟩ 9 ++ Sample.concluding c second 9 ++
    Sample.joining c' c.fields deadline 11 10 ++ Sample.confirming c' ⟨c.fields, deadline, .one⟩ 12 ++
    [Sample.gets .b (Sample.answering c second deadline 8), Sample.hears .a,
      Sample.gets .a (.upgradeCancel (cancellation ⟨2, (UpgradeError.outdated 2 1).message⟩ 12))]⟩

theorem replayed_facts : (∀ i, i < replayed.steps.length → replayed.TruthfulAt i) ∧ replayed.Counting ∧
    (replayed.steps[25]? = some ⟨.a, .deliver (.upgradeCancel
        (cancellation ⟨2, (UpgradeError.outdated 2 1).message⟩ 12))⟩ ∧
      (replayed.chain .a 25).validate (.upgradeCancel
        (cancellation ⟨2, (UpgradeError.outdated 2 1).message⟩ 12)) = .ok ()) ∧
    (replayed.record .a 25 endId).channel =
      some { channel .flushComplete .unordered 2 with version := ⟨"dummy-2"⟩ } ∧
    Event.upgrade .opened ⟨endId, .ofEnd endId, 2⟩ (channel .opened .unordered 0).fields ∈
      replayed.happens .b 22 endId := by
  decide +kernel

/-- A flushed end cancels the attempt that the other end has committed. -/
theorem cancels_committed : replayed.Honest ∧ ∃ i m c, replayed.Accepts .a i (.upgradeCancel m) ∧
    (replayed.record .a i m.id).channel = some c ∧ c.state = .flushComplete ∧
    c.remote = .ofEnd endId ∧ ∃ k f, replayed.Commits .b k endId m.id c.upgradeSequence f :=
  have ⟨htrue, _, haccepts, hc, hcommit⟩ := replayed_facts
  ⟨Sample.honest_of_truthful htrue, 25, _, _, haccepts, hc, rfl, rfl, 22, _, hcommit⟩

end

end ChannelLayer.Run
