import ChannelLayer.Proofs.History
import ChannelLayer.Proofs.Outcome

/-!
# Two ends in one attempt

An end that takes part in an attempt has seen the other end take part in it (`Run.answered`,
`Run.flushing`), and `Run.Matched` says what it has seen: the two upgrades agree, and they change the
channel. Of two proposals that cross at most one is answered (`Run.not_both_answer`), which is what lets
the end that confirms know the upgrade of the end that acknowledged.
-/

set_option autoImplicit false

namespace ChannelLayer.Run

/-- What an end `c` with the upgrade `u` has seen at world `j`: the other end `d`, in the same attempt
with the upgrade `w`. -/
structure Matched [Digest] (run : Run) (x : Side) (id : EndId) (c : ChannelEnd) (u : Upgrade)
    (remote : EndId) (j : Nat) (d : ChannelEnd) (w : Upgrade) : Prop
    extends run.Facing x id c remote j d where
  sequence : d.upgradeSequence = c.upgradeSequence
  upgrade : (run.record x.other j remote).upgrade = some w
  settled : run.Agree x u.fields w.fields
  changes : w.fields ≠ d.fields

variable [Digest] {run : Run} {x : Side} {i j : Nat} {id remote : EndId} {c c' d : ChannelEnd}
  {u u' w : Upgrade}

/-- Hops that face each other, each the only one of its side. -/
theorem agree_of_hopsFace {f g : UpgradeFields} (hface : (run.view x i).hopsFace f g)
    (horder : f.order = g.order) (hversion : f.version = g.version) (hf : f.hops.length = 1)
    (hg : g.hops.length = 1) : run.Agree x f g := by
  obtain ⟨hop, remoteHop, hhop, hremote, hfaces⟩ := hface
  obtain ⟨k, hk⟩ := List.length_eq_one_iff.1 hf
  obtain ⟨l, hl⟩ := List.length_eq_one_iff.1 hg
  rw [hk] at hhop
  rw [hl] at hremote
  obtain rfl := Option.some.inj hhop
  obtain rfl := Option.some.inj hremote
  exact ⟨horder, hversion, k, l, hk, hl, hfaces⟩

/-- Only the fields, the sequence and the other end of `c` matter. -/
theorem Matched.congr (h : run.Matched x id c u remote j d w) (hfields : c'.fields = c.fields)
    (hseq : c'.upgradeSequence = c.upgradeSequence) (hu : u'.fields = u.fields) :
    run.Matched x id c' u' remote j d w where
  there := h.there
  back := h.back
  agree := hfields ▸ h.agree
  sequence := h.sequence.trans hseq.symm
  upgrade := h.upgrade
  settled := hu ▸ h.settled
  changes := h.changes

/-- If the other upgrade changes the channel, so does the own one. -/
theorem Matched.changes_own (h : run.Honest) (hm : run.Matched x id c u remote j d w) :
    u.fields ≠ c.fields :=
  fun heq => hm.changes ((Agree.eq_iff h hm.settled hm.agree).1 heq)

/-- An end that is seen in the middle of an attempt is between its proposal and its commit. -/
theorem Matched.phase (hmatched : run.Matched x id c u remote j d w)
    (hupgrading : d.state.isUpgrading = true) (hinit : d.state ≠ .initUpgrade) :
    5 * c.upgradeSequence.toNat < (run.record x.other j remote).phase ∧
      (run.record x.other j remote).phase ≤ 5 * c.upgradeSequence.toNat + 3 := by
  have hphase := ChannelRecord.phase_of hmatched.there
  have hrank := ChannelState.rank_lt_iff.2 hupgrading
  have hpast : 1 ≤ d.state.rank := by
    cases hs : d.state <;> simp [hs, ChannelState.rank] at hinit ⊢
  rw [hmatched.sequence] at hphase
  omega

/-! ## Having stopped -/

/-- An end that has stopped sending did so at some step, and has kept both upgrades since. -/
theorem stopped (h : run.Honest) (hc : (run.record x i id).channel = some c)
    (hstate : c.state.isFlushing = true) :
    ∃ k c₀, k < i ∧ (run.record x k id).channel = some c₀ ∧ c.remote = c₀.remote ∧
      c.fields = c₀.fields ∧ c.upgradeSequence = c₀.upgradeSequence ∧ c₀.state.isFlushing = false ∧
      Turn.Stops (run.view x k) id (run.record x k id) c₀ (run.record x i id) := by
  induction i generalizing c with
  | zero =>
    rw [record_zero h] at hc
    cases hc
  | succ i ih =>
    obtain ⟨c₁, hc₁, hto, hfields, hseq, hstops⟩ := (turn h x i id).of_flushing hc hstate
    by_cases hflushing : c₁.state.isFlushing = true
    · obtain ⟨k, c₀, hki, hc₀, hto₀, hfields₀, hseq₀, hsending, hstops₀⟩ := ih hc₁ hflushing
      refine ⟨k, c₀, Nat.lt_succ_of_lt hki, hc₀, hto.trans hto₀, hfields.trans hfields₀,
        hseq.trans hseq₀, hsending, ?_⟩
      cases hstops with
      | before hstate₁ hu hw => exact hstops₀.congr hu hw
      | acked hinit => rw [hinit] at hflushing; cases hflushing
      | confirmed htry => rw [htry] at hflushing; cases hflushing
    · exact ⟨i, c₁, Nat.lt_succ_self i, hc₁, hto, hfields, hseq, by simpa using hflushing, hstops⟩

/-- An end that has stopped sending has seen the other one in the attempt, past the proposal. -/
theorem faced (h : run.Honest) (hc : (run.record x i id).channel = some c)
    (hstate : c.state.isFlushing = true) :
    ∃ remote j d, c.remote = .ofEnd remote ∧ j < i ∧ run.Facing x id c remote j d ∧
      d.upgradeSequence = c.upgradeSequence ∧ d.state.isUpgrading = true ∧ d.state ≠ .initUpgrade := by
  obtain ⟨k, c₀, hki, hc₀, hto', hfields, hseq, hsending, hstops⟩ := stopped h hc hstate
  cases hstops with
  | before hstate₀ => simp [hsending] at hstate₀
  | acked hinit hto hu₀ hend =>
    obtain ⟨j, hjk, -, d, hfacing, htry, hn⟩ :=
      of_mirrors h ((orderly h x k id).oneHop c₀ hc₀) hend (by decide)
    exact ⟨_, j, d, hto'.trans hto, Nat.lt_of_le_of_lt hjk hki,
      ⟨hfacing.there, hfacing.back, hfields ▸ hfacing.agree⟩, hn.trans hseq.symm, by rw [htry]; rfl,
      by rw [htry]; decide⟩
  | confirmed htry hto hu₀ htheirs hend =>
    obtain ⟨j, hjk, -, d, hfacing, hs, hn⟩ :=
      of_mirrors h ((orderly h x k id).oneHop c₀ hc₀) hend (by rintro rfl; simp at htheirs)
    refine ⟨_, j, d, hto'.trans hto, Nat.lt_of_le_of_lt hjk hki,
      ⟨hfacing.there, hfacing.back, hfields ▸ hfacing.agree⟩, hn.trans hseq.symm, ?_⟩
    rcases htheirs with rfl | rfl <;> rw [hs] <;> decide

section
variable (h : run.Honest) (hcount : run.Counting)

include h hcount

/-! ## Crossing proposals -/

/-- An end that answers a proposal has no proposal of its own in that attempt that would go first. -/
theorem theirs_of_answers {p : Upgrade} {n : UInt64}
    (hc : (run.record x i id).channel = some c)
    (hguard : c.state = .opened ∧ c.upgradeSequence < n ∨
      c.state = .initUpgrade ∧ ∃ own, (run.record x i id).upgrade = some own ∧
        upgradePrecedence ⟨c.upgradeSequence, own.fields, id⟩ ⟨n, p.fields, remote⟩ = .theirs)
    {k : Nat} (hki : k ≤ i) {c₀ : ChannelEnd} {own : Upgrade}
    (hc₀ : (run.record x k id).channel = some c₀) (hinit : c₀.state = .initUpgrade)
    (hseq : c₀.upgradeSequence = n) (hown : (run.record x k id).upgrade = some own) :
    upgradePrecedence ⟨n, own.fields, id⟩ ⟨n, p.fields, remote⟩ = .theirs := by
  have hle := phase_le h hcount x id hki
  have hphase := ChannelRecord.phase_of hc
  have hphase₀ := ChannelRecord.phase_of hc₀
  simp only [hinit, ChannelState.rank, hseq] at hphase₀
  rcases hguard with ⟨hopen, hlt⟩ | ⟨hinit', own', hown', htheirs⟩
  · have hlt := UInt64.lt_iff_toNat_lt.1 hlt
    simp only [hopen, ChannelState.rank] at hphase
    omega
  · have hle' := UInt64.le_iff_toNat_le.1 (sequence_le_of_theirs htheirs)
    simp only [hinit', ChannelState.rank] at hphase hle'
    have heq : c.upgradeSequence = n := UInt64.toNat_inj.1 (by omega)
    obtain ⟨c₁, hkept⟩ := kept h hcount hki (n := n.toNat) (by omega) (by omega) hc₀
    have hsame := hkept.upgrade (.inr (by rw [hphase, heq]; omega))
    rw [hown, hown'] at hsame
    obtain rfl := Option.some.inj hsame
    rwa [heq] at htheirs

/-! ## Answering and confirming -/

/-- An end that does not answer in an attempt keeps the ordering and the connection that it goes for. -/
theorem terms_kept (hji : j ≤ i) (hc : (run.record x j id).channel = some c)
    (hu : (run.record x j id).upgrade = some u)
    (hhi : (run.record x i id).phase ≤ 5 * c.upgradeSequence.toNat + 3)
    (hnever : ∀ k d, (run.record x k id).channel = some d → d.remote = c.remote →
      d.upgradeSequence = c.upgradeSequence → d.state ≠ .tryUpgrade) :
    ∃ u', (run.record x i id).upgrade = some u' ∧ u'.fields.order = u.fields.order ∧
      u'.fields.hops = u.fields.hops := by
  have hlo : 5 * c.upgradeSequence.toNat ≤ (run.record x j id).phase := by
    rw [ChannelRecord.phase_of hc]
    exact Nat.le_add_right _ _
  have hupgrading {k : Nat} (hjk : j ≤ k)
      (hk : (run.record x k id).phase ≤ 5 * c.upgradeSequence.toNat + 3) :
      ∃ d, (run.record x k id).channel = some d ∧ d.state.isUpgrading = true ∧
        d.remote = c.remote ∧ d.upgradeSequence = c.upgradeSequence := by
    obtain ⟨d, hkept⟩ := kept h hcount hjk hlo hk hc
    have hphase := ChannelRecord.phase_of hkept.channel
    rw [hkept.sequence] at hphase
    exact ⟨d, hkept.channel, ChannelState.rank_lt_iff.1 (by omega), hkept.remote, hkept.sequence⟩
  induction hji with
  | refl => exact ⟨u, hu, rfl, rfl⟩
  | @step i hji ih =>
    have hstep := phase_le h hcount x id (Nat.le_succ i)
    have hlast := Nat.le_trans hstep hhi
    obtain ⟨u₁, hu₁, horder, hhops⟩ := ih hlast
    obtain ⟨c₁, hc₁, hstate₁, -⟩ := hupgrading hji hlast
    obtain ⟨c₂, hc₂, hstate₂, hto, hseq⟩ := hupgrading (Nat.le_succ_of_le hji) hhi
    obtain ⟨u₂, hu₂, horder', hhops'⟩ := (turn h x i id).of_upgrading hc₁ hu₁ hstate₁ hc₂ hstate₂
      (hnever _ c₂ hc₂ hto hseq)
    exact ⟨u₂, hu₂, horder'.trans horder, hhops'.trans hhops⟩

section
variable (hclimb : run.Climbing)

include hclimb

/-- An end that has answered did so to a proposal of the other end, which goes before any of its own. -/
theorem answered (hc : (run.record x i id).channel = some c) (hstate : c.state = .tryUpgrade)
    (hu : (run.record x i id).upgrade = some u) :
    ∃ remote j d p, c.remote = .ofEnd remote ∧ j < i ∧ run.Matched x id c u remote j d p ∧
      d.state = .initUpgrade ∧
      ∀ k c₀ own, (run.record x k id).channel = some c₀ → c₀.state = .initUpgrade →
        c₀.upgradeSequence = c.upgradeSequence → (run.record x k id).upgrade = some own →
        upgradePrecedence ⟨c.upgradeSequence, own.fields, id⟩ ⟨c.upgradeSequence, p.fields, remote⟩
          = .theirs := by
  induction i generalizing c u with
  | zero =>
    rw [record_zero h] at hc
    cases hc
  | succ i ih =>
    obtain ⟨hchannel, hupgrade⟩ | ⟨c₀, p, hops, n, nextSend, height, remote, hc₀, hto, hguard, hend,
      hheld, hface, hdeadline, rfl, hu'⟩ := (turn h x i id).of_tryUpgrade hc hstate
    · obtain ⟨remote, j, d, p, hto, hji, hmatched⟩ := ih (hchannel ▸ hc) hstate (hupgrade ▸ hu)
      exact ⟨remote, j, d, p, hto, Nat.lt_succ_of_lt hji, hmatched⟩
    · obtain rfl := Option.some.inj (hu.symm.trans hu')
      obtain ⟨j, hji, d, q, hfacing, hinit, hseq, hq, hencode⟩ :=
        of_proposal_written h hclimb hc₀ hend (by decide) hheld
      have hfields := Upgrade.fields_eq_of_encode hencode
      have hattempt := (orderly h x.other j remote).attempting d hfacing.there
      simp only [ChannelRecord.Attempting, hinit, hq] at hattempt
      obtain ⟨_, ⟨⟩, -, hlength, hchanges⟩ := hattempt
      have hhops := (orderly h x (i + 1) id).oneHop_upgrade hu
      rw [← hfields] at hface hguard hhops ⊢
      refine ⟨remote, j, d, q, hto, Nat.lt_succ_of_le hji, ⟨⟨hfacing.there, hfacing.back, hfacing.agree⟩,
        hseq, hq, agree_of_hopsFace hface rfl rfl hhops hlength, hchanges⟩, hinit, ?_⟩
      intro k c₁ own hc₁ hinit₁ hseq₁ hown
      have hphase := ChannelRecord.phase_of hc
      have hphase₁ := ChannelRecord.phase_of hc₁
      simp only [hinit₁, hseq₁, ChannelState.rank] at hphase hphase₁
      have hki : k < i + 1 := lt_of_phase_lt h hcount x id (by omega)
      exact theirs_of_answers h hcount hc₀ hguard (Nat.le_of_lt_succ hki) hc₁ hinit₁ hseq₁ hown

/-- Of two ends at most one answers the other's proposal. -/
theorem not_both_answer (hc : (run.record x i id).channel = some c) (hstate : c.state = .tryUpgrade)
    (hto : c.remote = .ofEnd remote) (hd : (run.record x.other j remote).channel = some d)
    (hstate' : d.state = .tryUpgrade) (hseq : d.upgradeSequence = c.upgradeSequence) : False := by
  obtain ⟨u, hu⟩ := (orderly h x i id).exists_upgrade hc (by rw [hstate]; rfl)
  obtain ⟨w, hw⟩ := (orderly h x.other j remote).exists_upgrade hd (by rw [hstate']; rfl)
  obtain ⟨remote', k, d₀, p, hto', -, hmatched, hinit, hfirst⟩ :=
    answered h hcount hclimb hc hstate hu
  obtain rfl := Counterparty.ofEnd_inj (hto.symm.trans hto')
  obtain ⟨id', k', c₀, q, hback, -, hmatched', hinit', hfirst'⟩ :=
    answered h hcount hclimb hd hstate' hw
  -- The end `remote` proposed before it answered, so it is still joined to `id`.
  have hphase := ChannelRecord.phase_of hmatched.there
  have hphase' := ChannelRecord.phase_of hd
  rw [hmatched.sequence, hinit] at hphase
  rw [hseq, hstate'] at hphase'
  simp only [ChannelState.rank] at hphase hphase'
  have hkj : k < j := lt_of_phase_lt h hcount x.other remote (by omega)
  obtain ⟨d₁, hkept⟩ := kept h hcount (Nat.le_of_lt hkj) (n := c.upgradeSequence.toNat) (by omega)
    (by omega) hmatched.there
  obtain rfl := Option.some.inj (hd.symm.trans hkept.channel)
  obtain rfl := Counterparty.ofEnd_inj (hback.symm.trans (hkept.remote.trans hmatched.back))
  have htheirs := hfirst k' c₀ q (by simpa using hmatched'.there) hinit'
    (hmatched'.sequence.trans hseq) (by simpa using hmatched'.upgrade)
  have hours := hfirst' k d₀ p hmatched.there hinit (hmatched.sequence.trans hseq.symm) hmatched.upgrade
  rw [hseq] at hours
  exact not_theirs_of_theirs htheirs hours

/-- An end that answered and sees the other one flush has seen its upgrade. -/
theorem matched_of_confirms (hc : (run.record x i id).channel = some c)
    (hstate : c.state = .tryUpgrade) (hto : c.remote = .ofEnd remote)
    (hu : (run.record x i id).upgrade = some u) (hfacing : run.Facing x id c remote j d)
    (hflushing : d.state.isFlushing = true) (hseq : d.upgradeSequence = c.upgradeSequence)
    (hw : (run.record x.other j remote).upgrade = some w) (horder : w.fields.order = u.fields.order)
    (hversion : w.fields.version = u.fields.version) : run.Matched x id c u remote j d w := by
  obtain ⟨remote', k, d₀, p, hto', -, hmatched, hinit, -⟩ :=
    answered h hcount hclimb hc hstate hu
  obtain rfl := Counterparty.ofEnd_inj (hto.symm.trans hto')
  have hrank : 2 ≤ d.state.rank ∧ d.state.rank ≤ 3 := by
    cases hs : d.state <;> simp [hs, ChannelState.isFlushing, ChannelState.rank] at hflushing ⊢
  have hphase := ChannelRecord.phase_of hmatched.there
  have hphase' := ChannelRecord.phase_of hfacing.there
  rw [hmatched.sequence, hinit] at hphase
  rw [hseq] at hphase'
  simp only [ChannelState.rank] at hphase
  have hkj : k < j := lt_of_phase_lt h hcount x.other remote (by omega)
  have hnever (l : Nat) (e : ChannelEnd) (he : (run.record x.other l remote).channel = some e)
      (hback : e.remote = d₀.remote) (hn : e.upgradeSequence = d₀.upgradeSequence) :
      e.state ≠ .tryUpgrade := fun htry =>
    not_both_answer h hcount hclimb hc hstate hto he htry (hn.trans hmatched.sequence)
  obtain ⟨w', hw', horder', hhops⟩ := terms_kept h hcount (Nat.le_of_lt hkj) hmatched.there
    hmatched.upgrade (by rw [hmatched.sequence]; omega) hnever
  obtain rfl := Option.some.inj (hw.symm.trans hw')
  -- All three fields of the upgrade are those that were proposed.
  have hfields : w.fields = p.fields := by
    have hversion' := hversion.trans hmatched.settled.version
    cases hwf : w.fields with
    | mk order hops version => cases hpf : p.fields with
      | mk order' hops' version' => simp_all
  obtain ⟨d₁, hkept⟩ := kept h hcount (Nat.le_of_lt hkj) (n := c.upgradeSequence.toNat) (by omega)
    (by omega) hmatched.there
  obtain rfl := Option.some.inj (hfacing.there.symm.trans hkept.channel)
  exact ⟨hfacing, hseq, hw, hfields ▸ hmatched.settled,
    by rw [hfields, hkept.fields]; exact hmatched.changes⟩

end

/-! ## Flushing -/

section
variable (hplain : run.PlainDeadlines) (hclimb : run.Climbing)

include hplain hclimb

/-- An end that has stopped sending has seen the other one take part with the upgrade that it keeps of
it. -/
theorem flushing (hc : (run.record x i id).channel = some c) (hstate : c.state.isFlushing = true)
    (hu : (run.record x i id).upgrade = some u)
    (hw : (run.record x i id).counterpartyUpgrade = some w) :
    ∃ remote j d, c.remote = .ofEnd remote ∧ j < i ∧ run.Matched x id c u remote j d w ∧
      d.state.isUpgrading = true ∧ d.state ≠ .initUpgrade := by
  obtain ⟨k, c₀, hki, hc₀, hto', hfields, hseq, hsending, hstops⟩ := stopped h hc hstate
  cases hstops with
  | before hstate₀ => simp [hsending] at hstate₀
  | @acked u₀ w' nextSend height remote hinit hto hu₀ hend hheld horder hface hdeadline hu' hw' =>
    obtain rfl := Option.some.inj (hu.symm.trans hu')
    obtain rfl := Option.some.inj (hw.symm.trans hw')
    obtain ⟨j, hjk, d, hfacing, htry, hn, hpeer⟩ :=
      of_proposal h hplain hclimb hc₀ hend (by decide) hheld hdeadline
    have hlength := (orderly h x.other j remote).oneHop_upgrade hpeer
    have hhops := (orderly h x k id).oneHop_upgrade hu₀
    -- The other end answered, so that its upgrade changes the channel as the proposal did.
    obtain ⟨_, _, _, _, -, -, hmatched', -⟩ :=
      answered h hcount hclimb hfacing.there htry hpeer
    have hmatched : run.Matched x id c₀
        { u₀ with fields := { u₀.fields with version := w.fields.version }, nextSend } remote j d w :=
      ⟨hfacing, hn, hpeer, agree_of_hopsFace hface horder rfl hhops hlength, hmatched'.changes_own h⟩
    exact ⟨remote, j, d, hto'.trans hto, Nat.lt_of_le_of_lt hjk hki, hmatched.congr hfields hseq rfl,
      by rw [htry]; rfl, by rw [htry]; decide⟩
  | @confirmed u₀ w' state height remote htry hto hu₀ htheirs hend hheld horder hversion hdeadline hu'
      hw' =>
    obtain rfl := Option.some.inj (hu.symm.trans (hu'.trans hu₀))
    obtain rfl := Option.some.inj (hw.symm.trans hw')
    obtain ⟨j, hjk, d, hfacing, hs, hn, hpeer⟩ :=
      of_proposal h hplain hclimb hc₀ hend (by rintro rfl; simp at htheirs) hheld hdeadline
    have hflushing : d.state.isFlushing = true := by
      rcases htheirs with rfl | rfl <;> rw [hs] <;> rfl
    have hmatched := matched_of_confirms h hcount hclimb hc₀ htry hto hu₀ hfacing hflushing hn
      hpeer horder hversion
    refine ⟨remote, j, d, hto'.trans hto, Nat.lt_of_le_of_lt hjk hki, hmatched.congr hfields hseq rfl, ?_⟩
    rcases htheirs with rfl | rfl <;> rw [hs] <;> decide

end

end

end ChannelLayer.Run
