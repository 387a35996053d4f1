import ChannelLayer.Proofs.Agreement
import ChannelLayer.Proofs.Tally

/-!
# Ends that name each other

Many ends may be tried for one proposal of a channel, and each names the end that proposed it. A joined end
has been shown one end that named it (`Run.meets`), and that one does so for good, since an end that has been
told of its other end keeps it (`Run.named_back`). So joined ends are paired off, one with one, and as long as
neither commits an upgrade the two describe one channel (`Run.paired`).
-/

set_option autoImplicit false

namespace ChannelLayer.Run

section
variable [Digest] {run : Run} {x : Side} {i : Nat} {id remote : EndId} {c : ChannelEnd}

theorem sending (h : run.Honest) (x : Side) (i : Nat) (id : EndId) : (run.record x i id).Sending := by
  induction i with
  | zero =>
    rw [record_zero h]
    exact ChannelRecord.sending_empty
  | succ i ih => exact (turn h x i id).sending (orderly h x i id) ih

/-- An end that is joined became so in some step `k`, as it was shown the end that it is joined to. -/
theorem meets (h : run.Honest) (hjoined : (run.record x i id).IsJoined) :
    ∃ j k c₀ remote d, j ≤ k ∧ k < i ∧ (run.record x (k + 1) id).channel = some c₀ ∧
      c₀.state.isJoined = true ∧ c₀.remote = .ofEnd remote ∧ run.Facing x id c₀ remote j d ∧
      d.state ≠ .init := by
  induction i with
  | zero =>
    obtain ⟨c, hc, -⟩ := hjoined
    rw [record_zero h] at hc
    cases hc
  | succ i ih =>
    -- An end that was joined before has met the other one before.
    have hearlier (hjoined : (run.record x i id).IsJoined) : ∃ j k c₀ remote d, j ≤ k ∧ k < i + 1 ∧
        (run.record x (k + 1) id).channel = some c₀ ∧ c₀.state.isJoined = true ∧
        c₀.remote = .ofEnd remote ∧ run.Facing x id c₀ remote j d ∧ d.state ≠ .init := by
      obtain ⟨j, k, c₀, remote, d, hjk, hki, hmeets⟩ := ih hjoined
      exact ⟨j, k, c₀, remote, d, hjk, Nat.lt_succ_of_lt hki, hmeets⟩
    obtain ⟨c, hc, hstate⟩ := hjoined
    rcases (turn h x i id).of_isJoined (orderly h x i id) hc hstate with
        hjoined | ⟨-, n, hn⟩ | hopens
    · exact hearlier hjoined
    · exact hearlier ((sending h x i id).inFlight n hn)
    · obtain ⟨height, remote, state, hmet, hto, hend⟩ := hopens.shown
      obtain ⟨j, hji, -, d, hfacing, hd, -⟩ :=
        of_mirrors h ((orderly h x (i + 1) id).oneHop c hc) hend hmet
      exact ⟨j, i, c, remote, d, hji, Nat.lt_succ_self i, hc, hstate, hto, hfacing, hd ▸ hmet⟩

/-- Neither of two ends has committed an upgrade of their channel before step `i`. -/
def Uncommitted (run : Run) (x : Side) (i : Nat) (id remote : EndId) : Prop :=
  ∀ k n f, k < i → ¬run.Commits x k id remote n f ∧ ¬run.Commits x.other k remote id n f

/-- What a joined end has met is there now and names it, and the two describe one channel as long as neither has
committed an upgrade. -/
theorem named_back (h : run.Honest) (hc : (run.record x i id).channel = some c)
    (hjoined : c.state.isJoined = true) :
    ∃ remote d, c.remote = .ofEnd remote ∧ (run.record x.other i remote).channel = some d ∧
      d.remote = .ofEnd id ∧ (run.Uncommitted x i id remote → run.Agree x c.fields d.fields) := by
  obtain ⟨j, k, c₀, remote, d₀, hjk, hki, hc₀, hjoined₀, hto₀, hfacing, hmet⟩ := meets h ⟨c, hc, hjoined⟩
  obtain ⟨c', hc', -, hto, hfields⟩ := stays_joined h hki hc₀ hjoined₀
  obtain rfl := Option.some.inj (hc.symm.trans hc')
  obtain ⟨d, hd, -, -, hback, hfields'⟩ :=
    stays_met h (Nat.le_of_lt (Nat.lt_of_le_of_lt hjk hki)) hfacing.there hmet
  refine ⟨remote, d, hto.trans hto₀, hd, hback.trans hfacing.back, fun hnone => ?_⟩
  rcases hfields with hfields | ⟨l, e, -, hli, -, he, hcommits⟩
  · rcases hfields' with hfields' | ⟨l, e, -, hli, -, he, hcommits⟩
    · rw [hfields, hfields']
      exact hfacing.agree
    · obtain ⟨u, -, hcommit⟩ := commits_of_turn (he.trans hfacing.back) hcommits
      exact absurd hcommit (hnone l _ _ hli).2
  · obtain ⟨u, -, hcommit⟩ := commits_of_turn (he.trans hto₀) hcommits
    exact absurd hcommit (hnone l _ _ hli).1

/-- The end that a joined end names has named it ever since it was joined itself. -/
theorem named_since (h : run.Honest) (hc : (run.record x i id).channel = some c)
    (hjoined : c.state.isJoined = true) (hto : c.remote = .ofEnd remote) {j : Nat} (hji : j ≤ i)
    {d : ChannelEnd} (hd : (run.record x.other j remote).channel = some d)
    (hjoined' : d.state.isJoined = true) : d.remote = .ofEnd id := by
  obtain ⟨d', hd', -, hkept, -⟩ := stays_joined h hji hd hjoined'
  obtain ⟨remote', e, hto', he, hback, -⟩ := named_back h hc hjoined
  obtain rfl := Counterparty.ofEnd_inj (hto.symm.trans hto')
  obtain rfl := Option.some.inj (hd'.symm.trans he)
  exact hkept.symm.trans hback

end

/-! ## A proposal that is tried twice -/

section
attribute [local instance] Digest.plain

open Sample (endId connectionId channel gets hears proofAt)

end

end ChannelLayer.Run
