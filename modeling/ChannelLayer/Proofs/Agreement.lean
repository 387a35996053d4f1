import ChannelLayer.Proofs.Attempts
import ChannelLayer.Proofs.Trial

/-!
# Commits happen together

An end that commits an attempt has found the other end flushed in it, or the other end has committed it
before, and the two put fields in force that agree (`Run.Commits.concurs`). What an end acts on is a world
of the past; that it still holds is shown from three facts. A flushed end leaves its attempt only by a
commit or on an excuse (`Run.stays_flushed`). An excuse needs either an error receipt of the attempt, which
an end in the attempt has not written, or a deadline that had passed while the other end was not flushed,
which a flushed end rules out (`Run.not_excused`). And the fields of a channel change by commits alone
(`Run.stays_joined`), so that what runs the agreed fields has committed them.
-/

set_option autoImplicit false

namespace ChannelLayer.Run

section
variable [Digest] (run : Run)

/-- In step `i` the end `id` puts the fields `f` in force, as attempt `n` with the end `remote`. -/
def Commits (x : Side) (i : Nat) (id remote : EndId) (n : UInt64) (f : UpgradeFields) : Prop :=
  Event.upgrade .opened ⟨id, .ofEnd remote, n⟩ f ∈ run.happens x i id

/-- At world `i` the other end is flushed in attempt `n`, or it has committed it, with fields that agree
with `f`. -/
inductive Concurs (x : Side) (i : Nat) (id remote : EndId) (n : UInt64) (f : UpgradeFields) : Prop
  | flushed {d : ChannelEnd} {w : Upgrade} (hd : (run.record x.other i remote).channel = some d)
      (hstate : d.state = .flushComplete) (hback : d.remote = .ofEnd id) (hseq : d.upgradeSequence = n)
      (hw : (run.record x.other i remote).upgrade = some w) (hagree : run.Agree x f w.fields) :
      Concurs x i id remote n f
  | committed {k : Nat} {g : UpgradeFields} (hki : k < i)
      (hcommit : run.Commits x.other k remote id n g) (hagree : run.Agree x f g) :
      Concurs x i id remote n f

end

section
variable [Digest] {run : Run} {x : Side} {i j : Nat} {id remote : EndId} {c d : ChannelEnd}
  {u w : Upgrade} {n : UInt64} {f : UpgradeFields}

/-! ## One commit -/

theorem commits_of_turn (hto : c.remote = .ofEnd remote)
    (hcommits : Turn.Commits id (run.record x i id) c (run.happens x i id)) :
    ∃ u, (run.record x i id).upgrade = some u ∧
      run.Commits x i id remote c.upgradeSequence u.fields := by
  obtain ⟨u, hu, hes⟩ := hcommits
  refine ⟨u, hu, ?_⟩
  rw [Commits, hes, ← hto]
  exact List.mem_singleton.2 rfl

theorem Commits.grounds (h : run.Honest) (hcommit : run.Commits x i id remote n f) :
    ∃ c u w, (run.record x i id).channel = some c ∧ (run.record x i id).upgrade = some u ∧
      f = u.fields ∧ c.remote = .ofEnd remote ∧ c.upgradeSequence = n ∧
      Turn.Grounds (run.view x i) id (run.record x i id) c u w ∧
      run.record x (i + 1) id = (run.record x i id).commit c u w := by
  obtain ⟨c, u, w, hc, hu, hf, hinfo, hgrounds, hrecord⟩ := (turn h x i id).of_commit hcommit
  simp only [UpgradeInfo.ofEnd, UpgradeInfo.mk.injEq, true_and] at hinfo
  exact ⟨c, u, w, hc, hu, hf, hinfo.1.symm, hinfo.2.symm, hgrounds, hrecord⟩

/-- Up to its commit an end is in the attempt, and with it the attempt is over. -/
theorem Commits.phase (h : run.Honest) (hcommit : run.Commits x i id remote n f) :
    5 * n.toNat + 1 ≤ (run.record x i id).phase ∧ (run.record x i id).phase ≤ 5 * n.toNat + 3 ∧
      (run.record x (i + 1) id).phase = 5 * n.toNat + 4 := by
  obtain ⟨c, u, w, hc, -, -, -, rfl, hgrounds, hrecord⟩ := hcommit.grounds h
  have hphase := ChannelRecord.phase_of hc
  have hphase' : (run.record x (i + 1) id).phase = 5 * c.upgradeSequence.toNat + 4 := by
    rw [hrecord]
    rfl
  rcases hgrounds with ⟨hstate, -⟩ | ⟨hstate, -⟩ <;>
    simp only [hstate, ChannelState.rank] at hphase <;> exact ⟨by omega, by omega, hphase'⟩

/-- An end that commits is in the attempt, with the end that it is joined to. -/
theorem Commits.partakes (h : run.Honest) (hcommit : run.Commits x i id remote n f)
    (hc : (run.record x i id).channel = some c) :
    c.state.isUpgrading = true ∧ c.upgradeSequence = n ∧ c.remote = .ofEnd remote := by
  obtain ⟨c', u, w, hc', -, -, hto, hseq, hgrounds, -⟩ := hcommit.grounds h
  obtain rfl := Option.some.inj (hc.symm.trans hc')
  refine ⟨?_, hseq, hto⟩
  rcases hgrounds with ⟨hstate, -⟩ | ⟨hstate, -⟩ <;> rw [hstate] <;> rfl

/-! ## Staying as one is -/

/-- A flushed end stays so until it commits or has an excuse. -/
theorem stays_flushed (h : run.Honest) (hji : j ≤ i) (hc : (run.record x j id).channel = some c)
    (hstate : c.state = .flushComplete) :
    (run.record x i id).channel = some c ∨
      ∃ k, j ≤ k ∧ k < i ∧ (run.record x k id).channel = some c ∧
        (Turn.Commits id (run.record x k id) c (run.happens x k id) ∨
          (run.view x k).Excuses id (run.record x k id) c) := by
  induction hji with
  | refl => exact .inl hc
  | @step i hji ih =>
    rcases ih with hi | ⟨k, hjk, hki, hleft⟩
    · rcases (turn h x i id).of_flushed (orderly h x i id) hi hstate with hsame | hleft
      · exact .inl (hsame.trans hi)
      · exact .inr ⟨i, hji, Nat.lt_succ_self i, hi, hleft⟩
    · exact .inr ⟨k, hjk, Nat.lt_succ_of_lt hki, hleft⟩

/-- An end that has been told of its other end keeps it, stays joined if it was, and keeps its fields until it
commits. -/
theorem stays_met (h : run.Honest) (hji : j ≤ i) (hc : (run.record x j id).channel = some c)
    (hmet : c.state ≠ .init) :
    ∃ c', (run.record x i id).channel = some c' ∧ c'.state ≠ .init ∧
      (c.state.isJoined = true → c'.state.isJoined = true) ∧ c'.remote = c.remote ∧
      (c'.fields = c.fields ∨ ∃ k d, j ≤ k ∧ k < i ∧ (run.record x k id).channel = some d ∧
        d.remote = c.remote ∧ Turn.Commits id (run.record x k id) d (run.happens x k id)) := by
  induction hji with
  | refl => exact ⟨c, hc, hmet, fun hjoined => hjoined, rfl, .inl rfl⟩
  | @step i hji ih =>
    obtain ⟨c₁, hc₁, hmet₁, hjoined₁, hto₁, hfields₁⟩ := ih
    obtain ⟨c₂, hc₂, hmet₂, hjoined₂, hto₂, hfields₂⟩ := (turn h x i id).of_met hc₁ hmet₁
    refine ⟨c₂, hc₂, hmet₂, fun hjoined => hjoined₂ (hjoined₁ hjoined), hto₂.trans hto₁, ?_⟩
    rcases hfields₁ with hfields₁ | ⟨k, d, hjk, hki, hd⟩
    · rcases hfields₂ with hfields₂ | hcommits
      · exact .inl (hfields₂.trans hfields₁)
      · exact .inr ⟨i, c₁, hji, Nat.lt_succ_self i, hc₁, hto₁, hcommits⟩
    · exact .inr ⟨k, d, hjk, Nat.lt_succ_of_lt hki, hd⟩

/-- A channel that is joined stays so, and keeps its fields until it commits. -/
theorem stays_joined (h : run.Honest) (hji : j ≤ i) (hc : (run.record x j id).channel = some c)
    (hjoined : c.state.isJoined = true) :
    ∃ c', (run.record x i id).channel = some c' ∧ c'.state.isJoined = true ∧ c'.remote = c.remote ∧
      (c'.fields = c.fields ∨ ∃ k d, j ≤ k ∧ k < i ∧ (run.record x k id).channel = some d ∧
        d.remote = c.remote ∧ Turn.Commits id (run.record x k id) d (run.happens x k id)) := by
  obtain ⟨c', hc', -, hjoined', hto, hfields⟩ :=
    stays_met h hji hc (ChannelState.ne_init_of_isJoined hjoined)
  exact ⟨c', hc', hjoined' hjoined, hto, hfields⟩

/-- A flushed end has been flushed since before the other end's deadline. -/
theorem in_time (h : run.Honest) (hc : (run.record x i id).channel = some c)
    (hstate : c.state = .flushComplete) (hw : (run.record x i id).counterpartyUpgrade = some w) :
    ∃ k, k < i ∧ w.timeout.hasElapsed (run.host x k).height (run.host x k).time = false ∧
      ∀ l, k < l → l ≤ i → (run.record x l id).channel = some c := by
  induction i with
  | zero =>
    rw [record_zero h] at hc
    cases hc
  | succ i ih =>
    rcases (turn h x i id).of_flushComplete hc hstate with
        ⟨hchannel, hcounterparty⟩ | ⟨w', hw', htime⟩
    · obtain ⟨k, hki, htime, hsince⟩ := ih (hchannel ▸ hc) (hcounterparty ▸ hw)
      refine ⟨k, Nat.lt_succ_of_lt hki, htime, fun l hkl hli => ?_⟩
      rcases Nat.eq_or_lt_of_le hli with rfl | hlt
      · exact hc
      · exact hsince l hkl (Nat.le_of_lt_succ hlt)
    · obtain rfl := Option.some.inj (hw.symm.trans hw')
      refine ⟨i, Nat.lt_succ_self i, htime, fun l hil hli => ?_⟩
      obtain rfl : l = i + 1 := by omega
      exact hc

section
variable (h : run.Honest) (hcount : run.Counting)

include h hcount

/-- An end that is past the proposal of an attempt has one upgrade in it. -/
theorem same_attempt (hc : (run.record x i id).channel = some c)
    (hd : (run.record x j id).channel = some d) {n : Nat} (hlo : 5 * n < (run.record x i id).phase)
    (hhi : (run.record x i id).phase ≤ 5 * n + 3) (hlo' : 5 * n < (run.record x j id).phase)
    (hhi' : (run.record x j id).phase ≤ 5 * n + 3) :
    d.remote = c.remote ∧ (run.record x j id).upgrade = (run.record x i id).upgrade := by
  rcases Nat.le_total j i with hji | hij
  · obtain ⟨c', hkept⟩ := kept h hcount hji (Nat.le_of_lt hlo') hhi hd
    obtain rfl := Option.some.inj (hc.symm.trans hkept.channel)
    exact ⟨hkept.remote.symm, (hkept.upgrade (.inl hlo')).symm⟩
  · obtain ⟨d', hkept⟩ := kept h hcount hij (Nat.le_of_lt hlo) hhi' hc
    obtain rfl := Option.some.inj (hd.symm.trans hkept.channel)
    exact ⟨hkept.remote, hkept.upgrade (.inl hlo)⟩

/-! ## No excuse -/

/-- While an end is in an attempt and in time, the flushed end that it is joined to has no excuse. -/
theorem not_excused (hclimb : run.Climbing) (hc : (run.record x i id).channel = some c)
    (hin : (run.record x i id).phase ≤ 5 * c.upgradeSequence.toNat + 3) (hji : j ≤ i)
    (hback : d.remote = .ofEnd id) (hseq : d.upgradeSequence = c.upgradeSequence)
    (hw : (run.record x.other j remote).upgrade = some w)
    (htime : w.timeout.hasElapsed (run.host x i).height (run.host x i).time = false ∨
      c.state = .flushComplete ∧ (run.record x i id).counterpartyUpgrade = some w) :
    ¬(run.view x.other j).Excuses remote (run.record x.other j remote) d := by
  intro hexcuse
  cases hexcuse with
  | @cancelled height remote' message hto hreceipt =>
    -- The receipt says that the attempt was over for the end that is still in it.
    obtain rfl := Counterparty.ofEnd_inj (hback.symm.trans hto)
    obtain ⟨l, hlj, -, hvalue⟩ := hreceipt
    obtain ⟨e, he, hencode⟩ := Option.map_eq_some_iff.1 hvalue
    obtain rfl := ErrorReceipt.encode_inj hencode
    rw [Side.other_other] at he
    have hover := receipt_le h hcount x l id _ he
    have hle := phase_le h hcount x id (Nat.le_trans hlj hji)
    simp only [hseq] at hover
    omega
  | @expired height time remote' u d' hto hu hclock helapsed hheld hundone =>
    obtain rfl := Counterparty.ofEnd_inj (hback.symm.trans hto)
    obtain rfl := Option.some.inj (hw.symm.trans hu)
    obtain ⟨l, hlj, rfl, rfl⟩ := hclock
    rw [Side.other_other] at helapsed
    rcases htime with hnow | ⟨hflushed, hcounterparty⟩
    · have hpassed := hasElapsed_le h x (Nat.le_trans hlj hji) helapsed
      rw [hnow] at hpassed
      cases hpassed
    · obtain ⟨m, -, hnow, hsince⟩ := in_time h hc hflushed hcounterparty
      have hml : m < l := by
        refine Nat.lt_of_not_le fun hlm => ?_
        have hpassed := hasElapsed_le h x hlm helapsed
        rw [hnow] at hpassed
        cases hpassed
      -- At the height of that clock the end was flushed, so it cannot be shown as anything else.
      obtain ⟨l', -, hheight, e, he, hestate, -, heseq, -⟩ := of_holds hheld
      rw [Side.other_other] at hheight he
      rw [(same_of_height h (hclimb.climbs _) hheight id).1, hsince l hml (Nat.le_trans hlj hji)] at he
      obtain rfl := Option.some.inj he
      exact absurd ⟨hestate ▸ hflushed, heseq ▸ hseq.symm⟩ hundone

/-- An end that was seen flushed, by an end that is in the attempt and in time, is still flushed or has
committed. -/
theorem flushed_or_committed (hclimb : run.Climbing) (hc : (run.record x i id).channel = some c)
    (hin : (run.record x i id).phase ≤ 5 * c.upgradeSequence.toNat + 3) (hji : j ≤ i)
    (hd : (run.record x.other j remote).channel = some d) (hstate : d.state = .flushComplete)
    (hback : d.remote = .ofEnd id) (hseq : d.upgradeSequence = c.upgradeSequence)
    (hw : (run.record x.other j remote).upgrade = some w)
    (htime : w.timeout.hasElapsed (run.host x i).height (run.host x i).time = false ∨
      c.state = .flushComplete ∧ (run.record x i id).counterpartyUpgrade = some w) :
    (run.record x.other i remote).channel = some d ∧ (run.record x.other i remote).upgrade = some w ∨
      ∃ k, k < i ∧ run.Commits x.other k remote id c.upgradeSequence w.fields := by
  have hupgrade {k : Nat} (hjk : j ≤ k) (hk : (run.record x.other k remote).channel = some d) :
      (run.record x.other k remote).upgrade = some w := by
    have hphase := ChannelRecord.phase_of hd
    have hphase' := ChannelRecord.phase_of hk
    rw [hstate, hseq] at hphase hphase'
    simp only [ChannelState.rank] at hphase hphase'
    obtain ⟨d', hkept⟩ := kept h hcount hjk (n := c.upgradeSequence.toNat) (by omega) (by omega) hd
    exact (hkept.upgrade (.inl (by omega))).trans hw
  rcases stays_flushed h hji hd hstate with hi | ⟨k, hjk, hki, hk, hcommits | hexcuse⟩
  · exact .inl ⟨hi, hupgrade hji hi⟩
  · obtain ⟨u, hu, hcommit⟩ := commits_of_turn hback hcommits
    obtain rfl := Option.some.inj ((hupgrade hjk hk).symm.trans hu)
    exact .inr ⟨k, hki, hseq ▸ hcommit⟩
  · exact absurd hexcuse
      (not_excused h hcount hclimb hc hin (Nat.le_of_lt hki) hback hseq (hupgrade hjk hk) htime)

/-! ## Commits -/

/-- An end that was seen in an attempt and runs the fields of its upgrade later on has committed them, in
this attempt or some others in later ones. -/
theorem committed_of_fields (hmatched : run.Matched x id c u remote j d w)
    (hupgrading : d.state.isUpgrading = true) (hinit : d.state ≠ .initUpgrade) {k : Nat} {e : ChannelEnd}
    (he : (run.record x.other k remote).channel = some e) (hnew : e.fields = w.fields)
    (hle : c.upgradeSequence.toNat ≤ e.upgradeSequence.toNat) :
    ∃ l m g, l < k ∧ run.Commits x.other l remote id m g ∧ c.upgradeSequence.toNat ≤ m.toNat ∧
      (m = c.upgradeSequence → g = w.fields) := by
  obtain ⟨hlo, hhi⟩ := hmatched.phase hupgrading hinit
  have hjk : j < k := by
    refine Nat.lt_of_not_le fun hkj => ?_
    have hphase := ChannelRecord.phase_of he
    obtain ⟨d', hkept⟩ := kept h hcount hkj (n := c.upgradeSequence.toNat) (by omega) hhi he
    obtain rfl := Option.some.inj (hmatched.there.symm.trans hkept.channel)
    exact hmatched.changes (hnew.symm.trans hkept.fields.symm)
  obtain ⟨e', he', -, -, hfields | ⟨l, e₁, hjl, hlk, he₁, hback, hcommits⟩⟩ :=
    stays_joined h (Nat.le_of_lt hjk) hmatched.there (ChannelState.isJoined_of_isUpgrading hupgrading)
  · obtain rfl := Option.some.inj (he.symm.trans he')
    exact absurd (hnew.symm.trans hfields) hmatched.changes
  · obtain ⟨w', hw', hcommit⟩ := commits_of_turn (hback.trans hmatched.back) hcommits
    obtain ⟨hlo', hhi', -⟩ := hcommit.phase h
    have hmono := phase_le h hcount x.other remote hjl
    refine ⟨l, e₁.upgradeSequence, w'.fields, hlk, hcommit, by omega, fun hsame => ?_⟩
    rw [hsame] at hlo' hhi'
    obtain ⟨-, hupgrade⟩ := same_attempt h hcount hmatched.there he₁ hlo hhi hlo' hhi'
    obtain rfl := Option.some.inj (hw'.symm.trans (hupgrade.trans hmatched.upgrade))
    rfl

/-- The other end has been in an attempt that it concurs with. -/
theorem Concurs.phase (hconcurs : run.Concurs x i id remote n f) :
    5 * n.toNat + 3 ≤ (run.record x.other i remote).phase := by
  cases hconcurs with
  | flushed hd hstate hback hseq =>
    rw [ChannelRecord.phase_of hd, hstate, hseq]
    exact Nat.le_refl _
  | @committed k g hki hcommit =>
    obtain ⟨-, -, hphase⟩ := hcommit.phase h
    have hmono := phase_le h hcount x.other remote (show k + 1 ≤ i from hki)
    omega

section
variable (hplain : run.PlainDeadlines) (hclimb : run.Climbing)

include hplain hclimb

/-- An end that commits has seen the other one in the attempt, with the upgrade that it goes by, and if it
commits as it confirms, the other one was flushed. -/
theorem matched_of_grounds (hc : (run.record x i id).channel = some c)
    (hu : (run.record x i id).upgrade = some u) (hto : c.remote = .ofEnd remote)
    (hgrounds : Turn.Grounds (run.view x i) id (run.record x i id) c u w) :
    ∃ j d, j ≤ i ∧ run.Matched x id c u remote j d w ∧ d.state.isUpgrading = true ∧
      d.state ≠ .initUpgrade ∧ (c.state = .tryUpgrade → d.state = .flushComplete) := by
  cases hgrounds with
  | @confirmed height remote' htry hto' hend hheld horder hversion hdeadline =>
    obtain rfl := Counterparty.ofEnd_inj (hto.symm.trans hto')
    obtain ⟨j, hji, d, hfacing, hstate, hseq, hw⟩ :=
      of_proposal h hplain hclimb hc hend (by decide) hheld hdeadline
    have hmatched := matched_of_confirms h hcount hclimb hc htry hto hu hfacing
      (by rw [hstate]; rfl) hseq hw horder hversion
    exact ⟨j, d, hji, hmatched, by rw [hstate]; rfl, by rw [hstate]; decide, fun _ => hstate⟩
  | @flushed d height remote' hflushed hto' hw =>
    obtain ⟨remote', j, d₀, hto', hji, hmatched, hupgrading, hinit⟩ :=
      flushing h hcount hplain hclimb hc (by rw [hflushed]; rfl) hu hw
    obtain rfl := Counterparty.ofEnd_inj (hto.symm.trans hto')
    exact ⟨j, d₀, Nat.le_of_lt hji, hmatched, hupgrading, hinit,
      fun htry => absurd (hflushed.symm.trans htry) (by decide)⟩

theorem Commits.concurs (hcommit : run.Commits x i id remote n f) :
    run.Concurs x i id remote n f := by
  -- The other end's commits before this one are of attempts that this end has reached.
  induction i using Nat.strongRecOn generalizing x id remote n f with
  | ind i ih =>
    obtain ⟨-, hin, -⟩ := hcommit.phase h
    obtain ⟨c, u, w, hc, hu, rfl, hto, rfl, hgrounds, -⟩ := hcommit.grounds h
    obtain ⟨j, d₀, hji, hmatched, hupgrading, hinit, hseen⟩ :=
      matched_of_grounds h hcount hplain hclimb hc hu hto hgrounds
    cases hgrounds with
    | confirmed htry hto' hend hheld horder hversion hdeadline htime =>
      obtain ⟨hd, hw⟩ | ⟨k, hki, hcommit⟩ := flushed_or_committed h hcount hclimb hc hin hji
        hmatched.there (hseen htry) hmatched.back hmatched.sequence hmatched.upgrade (.inl htime)
      · exact .flushed hd (hseen htry) hmatched.back hmatched.sequence hw hmatched.settled
      · exact .committed hki hcommit hmatched.settled
    | @flushed d height remote' hflushed hto' hw hheld hdone =>
      obtain rfl := Counterparty.ofEnd_inj (hto.symm.trans hto')
      obtain ⟨k, hki, -, d₁, hd₁, hstate₁, hfields₁, hseq₁, -⟩ := of_holds hheld
      rcases hdone with ⟨hstate, hseq⟩ | ⟨-, hle, hfields⟩
      · -- The other end was flushed, with the upgrade that it was seen with before.
        replace hstate := hstate₁.trans hstate
        replace hseq := hseq₁.trans hseq
        obtain ⟨hlo, hhi⟩ := hmatched.phase hupgrading hinit
        have hphase := ChannelRecord.phase_of hd₁
        rw [hseq, hstate] at hphase
        simp only [ChannelState.rank] at hphase
        obtain ⟨hback, hupgrade⟩ := same_attempt h hcount hmatched.there hd₁ hlo hhi (by omega)
          (by omega)
        replace hback := hback.trans hmatched.back
        obtain ⟨hd, hw⟩ | ⟨l, hli, hcommit⟩ := flushed_or_committed h hcount hclimb hc hin hki hd₁
          hstate hback hseq (hupgrade.trans hmatched.upgrade) (.inr ⟨hflushed, hw⟩)
        · exact .flushed hd hstate hback hseq hw hmatched.settled
        · exact .committed hli hcommit hmatched.settled
      · -- The other end had moved on with the agreed fields in force.
        have hnew : d₁.fields = w.fields := by
          rw [hfields₁, hfields, hmatched.settled.order, hmatched.settled.version]
        obtain ⟨l, m, g, hlk, hcommit', hle, hsame⟩ := committed_of_fields h hcount hmatched hupgrading
          hinit hd₁ hnew (hseq₁ ▸ UInt64.le_iff_toNat_le.1 hle)
        have hli : l < i := Nat.lt_of_lt_of_le hlk hki
        have hreached := (ih l hli hcommit').phase h hcount
        rw [Side.other_other] at hreached
        have hmono := phase_le h hcount x id (Nat.le_of_lt hli)
        obtain rfl : m = c.upgradeSequence := UInt64.toNat_inj.1 (by omega)
        obtain rfl := hsame rfl
        exact .committed hli hcommit' hmatched.settled

end

end

/-- Whatever an end commits, the other end concurs with: it is flushed in the same attempt, or has
committed it before, on fields that agree. -/
theorem commits_together (h : run.Honest) (hcount : run.Counting) (hplain : run.PlainDeadlines)
    (hclimb : run.Climbing) {info : UpgradeInfo}
    (hcommit : Event.upgrade .opened info f ∈ run.happens x i id) :
    ∃ remote, info = ⟨id, .ofEnd remote, info.upgradeSequence⟩ ∧
      run.Concurs x i id remote info.upgradeSequence f := by
  obtain ⟨c, u, w, -, -, -, hinfo, hgrounds, -⟩ := (turn h x i id).of_commit hcommit
  obtain ⟨remote, hto⟩ : ∃ remote, c.remote = .ofEnd remote := by
    cases hgrounds with
    | confirmed hstate hto => exact ⟨_, hto⟩
    | flushed hstate hto => exact ⟨_, hto⟩
  have heq : info = ⟨id, .ofEnd remote, info.upgradeSequence⟩ := by
    rw [hinfo, ← hto]
    rfl
  rw [heq] at hcommit
  exact ⟨remote, heq, Commits.concurs h hcount hplain hclimb hcommit⟩

end

/-! ## A run that ends in a commit, and one that stands still -/

section
attribute [local instance] Digest.plain

open Sample (endId channel second)

/-- Chain `b` confirms an upgrade and commits, with `a` flushed. -/
def agreeing : Run :=
  let c := channel .opened .unordered 0
  ⟨Sample.joined 5, Sample.opening .unordered 6 7 ++ Sample.joining c second Sample.upgradeTimeout 8 8 ++
    Sample.confirming c ⟨second, Sample.upgradeTimeout, .one⟩ 9⟩

theorem agreeing_facts : (∀ i, i < agreeing.steps.length → agreeing.TruthfulAt i) ∧
    agreeing.Counting ∧ agreeing.PlainDeadlines ∧ agreeing.Climbing ∧
    Event.upgrade .opened ⟨endId, .ofEnd endId, 1⟩ second ∈ agreeing.happens .b 13 endId := by
  decide +kernel

theorem concurs_of_confirming : ∃ remote, (⟨endId, .ofEnd endId, 1⟩ : UpgradeInfo) =
      ⟨endId, .ofEnd remote, 1⟩ ∧ agreeing.Concurs .b 13 endId remote 1 second :=
  have ⟨htrue, hcount, hplain, hclimb, hcommit⟩ := agreeing_facts
  commits_together (Sample.honest_of_truthful htrue) hcount hplain hclimb hcommit

/-- Chain `a` stands at the last block. It flushes, gives up in time and proposes anew with a later
deadline; all this lies at one height, where `b` is shown the flushed end beside the new upgrade. -/
def standingStill : Run :=
  let c := channel .opened .unordered 0
  let top := Height.lastBlock
  let answered := channel .tryUpgrade .unordered 1
  ⟨Sample.joined top,
    Sample.opening .unordered top top ++ Sample.joining c second (Sample.within 60) top 8 ++
    [⟨.b, .advanceTime 100000000000⟩, Sample.hears .a,
      Sample.gets .a
        (.upgradeExpire ⟨endId, answered, Sample.proofOfEnd 8 answered, ⟨0, 8⟩, Sample.signer⟩),
      Sample.gets .a (.upgradeInit ⟨endId, second, Sample.within 1000, Sample.signer⟩)] ++
    Sample.confirming c ⟨second, Sample.within 1000, .zero⟩ top⟩

theorem standingStill_facts : (∀ i, i < standingStill.steps.length → standingStill.TruthfulAt i) ∧
    standingStill.PlainDeadlines ∧
    Event.upgrade .opened ⟨endId, .ofEnd endId, 1⟩ second ∈ standingStill.happens .b 17 endId ∧
    (standingStill.record .a 17 endId).channel = some (channel .initUpgrade .unordered 3) ∧
    ∀ k, k < 17 → (standingStill.happens .a k endId).all (· matches .upgradeError ..) = true := by
  decide +kernel

/-- At the last block an end commits attempt 1 alone: the other one has given it up and is in attempt 3. -/
theorem commits_alone_at_last_block : standingStill.Honest ∧ standingStill.PlainDeadlines ∧
    ∃ info f, Event.upgrade .opened info f ∈ standingStill.happens .b 17 endId ∧
      ∀ remote, info.remote = .ofEnd remote →
        ¬standingStill.Concurs .b 17 endId remote info.upgradeSequence f := by
  obtain ⟨htrue, hplain, hcommit, hpeer, hnone⟩ := standingStill_facts
  refine ⟨Sample.honest_of_truthful htrue, hplain, _, _, hcommit, fun remote hremote hconcurs => ?_⟩
  obtain rfl := Counterparty.ofEnd_inj hremote
  cases hconcurs with
  | flushed hd hstate =>
    obtain rfl := Option.some.inj (hpeer.symm.trans hd)
    cases hstate
  | committed hki hcommit' =>
    have hno := List.all_eq_true.1 (hnone _ hki) _ hcommit'
    cases hno

end

end ChannelLayer.Run
