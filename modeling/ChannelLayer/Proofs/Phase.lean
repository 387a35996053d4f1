import ChannelLayer.Proofs.Orders
import ChannelLayer.Proofs.Turn

/-!
# How far an end has come

The attempts of an end are numbered, and each runs through the same states: proposed or answered, then
flushing, then flushed, then over. `ChannelRecord.phase` puts both into one number, which never goes back
(`Turn.phase_le`), so what was true of an attempt at one time and what is true of it at another can be
compared. `ChannelRecord.Orderly` collects what every record satisfies (`Turn.orderly`).
-/

set_option autoImplicit false

namespace ChannelLayer

/-! ## Phases -/

/-- The place of a state in an attempt; a state outside of one counts as the end of the attempt before. -/
def ChannelState.rank : ChannelState → Nat
  | .initUpgrade => 0
  | .tryUpgrade => 1
  | .flushing => 2
  | .flushComplete => 3
  | _ => 4

def ChannelEnd.phase (c : ChannelEnd) : Nat := 5 * c.upgradeSequence.toNat + c.state.rank

/-- An end that is not there yet has come nowhere. -/
def ChannelRecord.phase (r : ChannelRecord) : Nat := r.channel.elim 0 ChannelEnd.phase

theorem ChannelRecord.phase_of {r : ChannelRecord} {c : ChannelEnd} (hc : r.channel = some c) :
    r.phase = 5 * c.upgradeSequence.toNat + c.state.rank := by
  simp [phase, hc, ChannelEnd.phase]

theorem ChannelState.rank_lt_iff {s : ChannelState} : s.rank < 4 ↔ s.isUpgrading = true := by
  cases s <;> decide

theorem ChannelState.rank_le (s : ChannelState) : s.rank ≤ 4 := by cases s <;> decide

/-- The last number that an attempt can have. -/
def lastAttempt : UInt64 := UInt64.ofNat (UInt64.size - 1)

theorem toNat_add_one {n : UInt64} (h : n ≠ lastAttempt) : (n + 1).toNat = n.toNat + 1 := by
  have hn := n.toNat_lt
  have hne : n.toNat ≠ UInt64.size - 1 := fun heq => h (UInt64.toNat_inj.1 heq)
  simp only [UInt64.size] at hne
  rw [UInt64.toNat_add, UInt64.toNat_one]
  omega

theorem lt_add_one_of_not_last {n : UInt64} (h : n ≠ lastAttempt) : n < n + 1 := by
  rw [UInt64.lt_iff_toNat_lt, toNat_add_one h]
  exact Nat.lt_succ_self _

/-- The attempts of the end can still be numbered. -/
structure ChannelRecord.Counting (r : ChannelRecord) : Prop where
  attempt : ∀ c, r.channel = some c → c.upgradeSequence ≠ lastAttempt
  receipt : ∀ receipt, r.errorReceipt = some receipt → receipt.sequence ≠ lastAttempt

/-! ## Orderly records -/

/-- What is kept beside an end, by its state. -/
def ChannelRecord.Attempting (r : ChannelRecord) (c : ChannelEnd) : Prop :=
  match c.state with
  | .initUpgrade => ∃ u, r.upgrade = some u ∧ r.counterpartyUpgrade = none ∧
      u.fields.hops.length = 1 ∧ u.fields ≠ c.fields
  | .tryUpgrade => ∃ u, r.upgrade = some u ∧ r.counterpartyUpgrade = none ∧
      u.fields.hops.length = 1 ∧ r.nextSend = some u.nextSend
  | .flushing => ∃ u w, r.upgrade = some u ∧ r.counterpartyUpgrade = some w ∧
      u.fields.hops.length = 1 ∧ r.nextSend = some u.nextSend
  | .flushComplete => ∃ u w, r.upgrade = some u ∧ r.counterpartyUpgrade = some w ∧
      u.fields.hops.length = 1 ∧ r.nextSend = some u.nextSend ∧ r.commitments.isEmpty = true
  | _ => r.upgrade = none ∧ r.counterpartyUpgrade = none

/-- What holds of every record of a channel end. -/
structure ChannelRecord.Orderly (r : ChannelRecord) : Prop where
  unborn : r.channel = none → r.upgrade = none ∧ r.counterpartyUpgrade = none
  joined : ∀ c, r.channel = some c → c.state ≠ .init → c.remote.channel ≠ none
  oneHop : ∀ c, r.channel = some c → c.hops.length = 1
  attempting : ∀ c, r.channel = some c → r.Attempting c

namespace ChannelRecord

variable {r r' : ChannelRecord} {c c' : ChannelEnd}

theorem Attempting.congr (h : r.Attempting c) (hu : r'.upgrade = r.upgrade)
    (hw : r'.counterpartyUpgrade = r.counterpartyUpgrade) (hnext : r'.nextSend = r.nextSend)
    (hflight : r.commitments.isEmpty = true → r'.commitments.isEmpty = true) : r'.Attempting c := by
  unfold Attempting at h ⊢
  rw [hu, hw, hnext]
  split at h
  · exact h
  · exact h
  · exact h
  · obtain ⟨u, w, hu, hw, hhops, hnext, hempty⟩ := h
    exact ⟨u, w, hu, hw, hhops, hnext, hflight hempty⟩
  · exact h

/-- A record with the same end and nothing of the attempt changed. -/
theorem Orderly.congr (h : r.Orderly) (hc : r'.channel = r.channel) (hu : r'.upgrade = r.upgrade)
    (hw : r'.counterpartyUpgrade = r.counterpartyUpgrade) (hnext : r'.nextSend = r.nextSend)
    (hflight : r.commitments.isEmpty = true → r'.commitments.isEmpty = true) : r'.Orderly where
  unborn hnone := by rw [hu, hw]; exact h.unborn (hc ▸ hnone)
  joined c hc' := h.joined c (hc ▸ hc')
  oneHop c hc' := h.oneHop c (hc ▸ hc')
  attempting c hc' := (h.attempting c (hc ▸ hc')).congr hu hw hnext hflight

/-- A record that holds the end `c'`. -/
theorem Orderly.of_channel (hc : r'.channel = some c') (hjoined : c'.state ≠ .init →
    c'.remote.channel ≠ none) (hhops : c'.hops.length = 1) (hattempt : r'.Attempting c') :
    r'.Orderly where
  unborn hnone := by simp [hc] at hnone
  joined c hc' := by obtain rfl := Option.some.inj (hc.symm.trans hc'); exact hjoined
  oneHop c hc' := by obtain rfl := Option.some.inj (hc.symm.trans hc'); exact hhops
  attempting c hc' := by obtain rfl := Option.some.inj (hc.symm.trans hc'); exact hattempt

theorem Orderly.exists_upgrade (h : r.Orderly) (hc : r.channel = some c)
    (hstate : c.state.isUpgrading = true) : ∃ u, r.upgrade = some u := by
  have hattempt := h.attempting c hc
  unfold Attempting at hattempt
  cases hs : c.state <;> simp only [hs, ChannelState.isUpgrading, reduceCtorEq] at hattempt hstate
  · obtain ⟨u, w, hu, -⟩ := hattempt
    exact ⟨u, hu⟩
  · obtain ⟨u, w, hu, -⟩ := hattempt
    exact ⟨u, hu⟩
  · obtain ⟨u, hu, -⟩ := hattempt
    exact ⟨u, hu⟩
  · obtain ⟨u, hu, -⟩ := hattempt
    exact ⟨u, hu⟩

/-- An upgrade is kept only during an attempt. -/
theorem Orderly.isUpgrading_of_upgrade (h : r.Orderly) (hc : r.channel = some c) (hu : r.upgrade ≠ none) :
    c.state.isUpgrading = true := by
  have hattempt := h.attempting c hc
  unfold Attempting at hattempt
  cases hs : c.state <;> simp only [hs] at hattempt
  case initUpgrade => rfl
  case tryUpgrade => rfl
  case flushing => rfl
  case flushComplete => rfl
  all_goals exact absurd hattempt.1 hu

/-- An end that gives up was in an attempt or open. -/
theorem Orderly.isUpgrading_or_opened (h : r.Orderly) (hc : r.channel = some c) {p q : Prop}
    (hguard : (c.state.isUpgrading = true ∨ r.upgrade ≠ none) ∧ p ∨ c.state = .opened ∧ q) :
    c.state.isUpgrading = true ∨ c.state = .opened := by
  rcases hguard with ⟨hstate | hu, -⟩ | ⟨hopen, -⟩
  · exact .inl hstate
  · exact .inl (h.isUpgrading_of_upgrade hc hu)
  · exact .inr hopen

/-- An upgrade that is kept goes over one connection. -/
theorem Orderly.oneHop_upgrade (h : r.Orderly) {u : Upgrade} (hu : r.upgrade = some u) :
    u.fields.hops.length = 1 := by
  cases hc : r.channel with
  | none => simp [(h.unborn hc).1] at hu
  | some c =>
    obtain ⟨u', hu', hhops⟩ : ∃ u', r.upgrade = some u' ∧ u'.fields.hops.length = 1 := by
      have hattempt := h.attempting c hc
      unfold Attempting at hattempt
      split at hattempt
      · obtain ⟨u', hu', -, hhops, -⟩ := hattempt
        exact ⟨u', hu', hhops⟩
      · obtain ⟨u', hu', -, hhops, -⟩ := hattempt
        exact ⟨u', hu', hhops⟩
      · obtain ⟨u', w, hu', -, hhops, -⟩ := hattempt
        exact ⟨u', hu', hhops⟩
      · obtain ⟨u', w, hu', -, hhops, -⟩ := hattempt
        exact ⟨u', hu', hhops⟩
      · simp [hattempt.1] at hu
    obtain rfl := Option.some.inj (hu.symm.trans hu')
    exact hhops

/-- What an end keeps that has just stopped sending. -/
theorem attempting_flushState {u w : Upgrade} (hstate : c.state = r.flushState)
    (hflight : r'.commitments = r.commitments) (hu : r'.upgrade = some u)
    (hw : r'.counterpartyUpgrade = some w) (hhops : u.fields.hops.length = 1)
    (hnext : r'.nextSend = some u.nextSend) : r'.Attempting c := by
  unfold Attempting
  by_cases hempty : r.commitments.isEmpty = true
  · rw [hstate, flushState, if_pos hempty]
    exact ⟨u, w, hu, hw, hhops, hnext, hflight ▸ hempty⟩
  · rw [hstate, flushState, if_neg hempty]
    exact ⟨u, w, hu, hw, hhops, hnext⟩

theorem isEmpty_settle {n : Sequence} {nextAck : Option Sequence}
    (h : r.commitments.isEmpty = true) : (r.settle n nextAck).commitments.isEmpty = true := by
  rw [Table.isEmpty_iff] at h ⊢
  intro k
  simp [settle, h]

end ChannelRecord

namespace Turn

variable [Digest] {v : View} {id : EndId} {r r' : ChannelRecord} {es : List Event}

theorem orderly (h : Turn v id r r' es) (hr : r.Orderly) : r'.Orderly := by
  cases h with
  | idle => exact hr
  | @created c handle hnew hstate horder hhops hseq =>
    obtain ⟨hu, hw⟩ := hr.unborn hnew
    refine .of_channel (show _ = some c from rfl) ?_ hhops ?_
    · intro hinit
      rcases hstate with ⟨h, -⟩ | ⟨-, h⟩
      · exact absurd h hinit
      · exact h
    · rcases hstate with ⟨h, -⟩ | ⟨h, -⟩ <;> simp [ChannelRecord.Attempting, h, hu, hw]
  | @opened c c' hc hstate hopen horder hto hhops hseq =>
    refine .of_channel (show _ = some c' from rfl) (fun _ => hto) (hhops ▸ hr.oneHop c hc) ?_
    have hattempt := hr.attempting c hc
    rcases hstate with h | ⟨h, -⟩ <;> simpa [ChannelRecord.Attempting, h, hopen] using hattempt
  | @closed c hc hopen =>
    refine .of_channel rfl (fun _ => hr.joined c hc (by simp [hopen])) (hr.oneHop c hc) ?_
    have hattempt := hr.attempting c hc
    simpa [ChannelRecord.Attempting, hopen, ChannelRecord.setState] using hattempt
  | @sent c p hc hsending =>
    have hattempt := hr.attempting c hc
    refine .of_channel hc (hr.joined c hc) (hr.oneHop c hc) ?_
    cases hstate : c.state <;> simp [ChannelState.isSending, hstate] at hsending <;>
      simpa [ChannelRecord.Attempting, hstate] using hattempt
  | receivedUnordered => exact hr.congr rfl rfl rfl rfl fun h => h
  | receivedOrdered => exact hr.congr rfl rfl rfl rfl fun h => h
  | settled => exact hr.congr rfl rfl rfl rfl ChannelRecord.isEmpty_settle
  | @flushed c w n nextAck hc hstate hw htime hlast =>
    refine .of_channel rfl (fun _ => hr.joined c hc (by simp [hstate])) (hr.oneHop c hc) ?_
    obtain ⟨u, w, hu, hw, hhops, hnext⟩ : ∃ u w, r.upgrade = some u ∧ r.counterpartyUpgrade = some w ∧
        u.fields.hops.length = 1 ∧ r.nextSend = some u.nextSend := by
      simpa [ChannelRecord.Attempting, hstate] using hr.attempting c hc
    exact ⟨u, w, hu, hw, hhops, hnext, hlast⟩
  | @timedOut c n hc hto hflight =>
    refine .of_channel (ChannelRecord.channel_close c) (fun _ => hto) (hr.oneHop c hc) ?_
    have hattempt := hr.attempting c hc
    unfold ChannelRecord.close
    split
    · exact ⟨rfl, rfl⟩
    · rename_i hidle
      cases hstate : c.state <;> simp [ChannelState.isUpgrading, hstate] at hidle <;>
        simpa [ChannelRecord.Attempting, hstate, ChannelRecord.settle] using hattempt
  | @proposed c f timeout hc hopen hnew hhops hdeadline =>
    refine .of_channel rfl (fun _ => hr.joined c hc (by simp [hopen])) (hr.oneHop c hc) ?_
    have hattempt := hr.attempting c hc
    simp [ChannelRecord.Attempting, hopen] at hattempt
    exact ⟨_, rfl, hattempt.2, hhops, hnew⟩
  | refused => exact hr.congr rfl rfl rfl rfl fun h => h
  | @answered c p hops n nextSend height remote hc hto hstate hend hupgrade hhops hface hdeadline htime
      hnext =>
    refine .of_channel rfl (fun _ => by simp [hto, Counterparty.ofEnd]) (hr.oneHop c hc) ?_
    have hw : r.counterpartyUpgrade = none := by
      have hattempt := hr.attempting c hc
      rcases hstate with ⟨h, -⟩ | ⟨h, -⟩
      · simp [ChannelRecord.Attempting, h] at hattempt; exact hattempt.2
      · simp [ChannelRecord.Attempting, h] at hattempt; exact hattempt.choose_spec.2.1
    exact ⟨_, rfl, hw, hhops, hnext⟩
  | @acked c u w nextSend height remote hc hto hstate hu hend hupgrade horder hface hdeadline htime
      hnext =>
    refine .of_channel rfl (fun _ => by simp [hto, Counterparty.ofEnd]) (hr.oneHop c hc) ?_
    have hhops : u.fields.hops.length = 1 := hr.oneHop_upgrade hu
    exact ChannelRecord.attempting_flushState rfl rfl rfl rfl hhops hnext
  | @confirmed c u w state height remote hc hto hstate hu htheirs hend hupgrade horder hversion hdeadline
      htime =>
    refine .of_channel rfl (fun _ => by simp [hto, Counterparty.ofEnd]) (hr.oneHop c hc) ?_
    obtain ⟨-, hhops, hnext⟩ : r.counterpartyUpgrade = none ∧ u.fields.hops.length = 1 ∧
        r.nextSend = some u.nextSend := by
      have hattempt := hr.attempting c hc
      simpa [ChannelRecord.Attempting, hstate, hu] using hattempt
    exact ChannelRecord.attempting_flushState rfl rfl hu rfl hhops hnext
  | @confirmedLast c u w height remote hc hto hstate hu =>
    refine .of_channel (ChannelRecord.channel_commit c u w) ?_ (hr.oneHop_upgrade hu) ⟨rfl, rfl⟩
    intro _
    simp [ChannelEnd.upgraded, ChannelEnd.withFields, hto, Counterparty.ofEnd]
  | @committed c d u w height remote hc hto hstate hu =>
    refine .of_channel (ChannelRecord.channel_commit c u w) ?_ (hr.oneHop_upgrade hu) ⟨rfl, rfl⟩
    intro _
    simp [ChannelEnd.upgraded, ChannelEnd.withFields, hto, Counterparty.ofEnd]
  | @gaveUp c base n e hc hbase hstate hexcuse =>
    have hinit : c.state ≠ .init := by
      intro hinit
      rcases hr.isUpgrading_or_opened hc hstate with h | h <;> rw [hinit] at h <;> cases h
    exact .of_channel rfl (fun _ => hr.joined c hc hinit) (hr.oneHop c hc) ⟨rfl, rfl⟩

/-! ## Going forward -/

omit [Digest] in
theorem sequence_le_of_gaveUp {p q : Prop} {m n : UInt64} (h : p ∧ m ≤ n ∨ q ∧ m < n) :
    m.toNat ≤ n.toNat := by
  rcases h with ⟨-, hle⟩ | ⟨-, hlt⟩
  · exact UInt64.le_iff_toNat_le.1 hle
  · exact Nat.le_of_lt (UInt64.lt_iff_toNat_lt.1 hlt)

section
variable (h : Turn v id r r' es) (hcount : r.Counting) (hcount' : r'.Counting)

include h hcount hcount'

theorem phase_le : r.phase ≤ r'.phase := by
  cases h with
  | idle => exact Nat.le_refl _
  | created hnew => simp [ChannelRecord.phase, hnew]
  | @opened c c' hc hstate hopen horder hto hhops hseq =>
    rcases hstate with h | ⟨h, -⟩ <;>
      simp [ChannelRecord.phase, ChannelEnd.phase, hc, h, hopen, hseq, ChannelState.rank]
  | closed hc hopen =>
    simp [ChannelRecord.phase, ChannelEnd.phase, ChannelRecord.setState, hc, hopen, ChannelState.rank]
  | flushed hc hstate =>
    simp [ChannelRecord.phase, ChannelEnd.phase, ChannelRecord.setState, hc, hstate, ChannelState.rank]
  | @timedOut c n hc =>
    have := c.state.rank_le
    simpa [ChannelRecord.phase, ChannelEnd.phase, hc, ChannelState.rank] using this
  | @proposed c f timeout hc hopen =>
    have hnext := toNat_add_one (hcount.attempt c hc)
    simp only [ChannelRecord.phase, ChannelEnd.phase, hc, hopen, Option.elim_some,
      Message.UpgradeInit.proposed, hnext, ChannelState.rank]
    omega
  | @answered c p hops n nextSend height remote hc hto hstate =>
    simp only [ChannelRecord.phase, ChannelEnd.phase, hc, Option.elim_some, ChannelState.rank]
    rcases hstate with ⟨hopen, hlt⟩ | ⟨hinit, own, -, htheirs⟩
    · have hlt := UInt64.lt_iff_toNat_lt.1 hlt
      simp only [hopen]
      omega
    · have hle := UInt64.le_iff_toNat_le.1 (sequence_le_of_theirs htheirs)
      simp only [hinit] at hle ⊢
      omega
  | acked hc hto hstate =>
    simp [ChannelRecord.phase, ChannelEnd.phase, hc, hstate, ChannelState.rank]
  | confirmed hc hto hstate =>
    unfold ChannelRecord.flushState
    split <;> simp [ChannelRecord.phase, ChannelEnd.phase, hc, hstate, ChannelState.rank]
  | confirmedLast hc hto hstate =>
    simp [ChannelRecord.phase, ChannelEnd.phase, hc, hstate, ChannelState.rank, ChannelEnd.upgraded,
      ChannelEnd.withFields]
  | committed hc hto hstate =>
    simp [ChannelRecord.phase, ChannelEnd.phase, hc, hstate, ChannelState.rank, ChannelEnd.upgraded,
      ChannelEnd.withFields]
  | @gaveUp c base n e hc hbase hstate hexcuse =>
    have hnext := toNat_add_one (hcount'.receipt _ rfl)
    have hrank := c.state.rank_le
    have hle := sequence_le_of_gaveUp hstate
    simp only [ChannelEnd.receiptFor] at hnext
    rw [ChannelRecord.phase_of hc]
    show _ ≤ 5 * (n + 1).toNat + 4
    omega
  | _ => exact Nat.le_refl _

end

/-! ## Within an attempt -/

/-- A turn within attempt `n` keeps the end as it is but for its state; the own upgrade is kept unless the
end settles or answers, and the other one's once it is there. -/
structure Keeps (r r' : ChannelRecord) (n : Nat) (c c' : ChannelEnd) : Prop where
  channel : r'.channel = some c'
  fields : c'.fields = c.fields
  remote : c'.remote = c.remote
  sequence : c'.upgradeSequence = c.upgradeSequence
  upgrade : 5 * n < r.phase ∨ r'.phase = 5 * n → r'.upgrade = r.upgrade
  counterparty : 5 * n + 2 ≤ r.phase → r'.counterpartyUpgrade = r.counterpartyUpgrade

omit [Digest] in
theorem ChannelRecord.rank_flushState (r : ChannelRecord) :
    r.flushState.rank = 2 ∨ r.flushState.rank = 3 := by
  unfold ChannelRecord.flushState
  split
  · exact .inr rfl
  · exact .inl rfl

theorem within (h : Turn v id r r' es) (hcount : r.Counting) (hcount' : r'.Counting) {n : Nat}
    (hlo : 5 * n ≤ r.phase) (hhi : r'.phase ≤ 5 * n + 3) {c : ChannelEnd} (hc : r.channel = some c) :
    ∃ c', Keeps r r' n c c' := by
  have hphase := ChannelRecord.phase_of hc
  have hrank := c.state.rank_le
  -- Once the attempt is over, the end is beyond it.
  have hover {m : Nat} (hm : c.upgradeSequence.toNat ≤ m) : ¬5 * m + 4 ≤ 5 * n + 3 := by omega
  have hsame : r'.channel = r.channel → r'.upgrade = r.upgrade →
      r'.counterpartyUpgrade = r.counterpartyUpgrade → ∃ c', Keeps r r' n c c' := fun hc' hu hw =>
    ⟨c, hc'.trans hc, rfl, rfl, rfl, fun _ => hu, fun _ => hw⟩
  cases h with
  | created hnew => simp [hc] at hnew
  | @opened d d' hd hstate hopen horder hto hhops hseq =>
    obtain rfl := Option.some.inj (hc.symm.trans hd)
    have hphase' : 5 * d'.upgradeSequence.toNat + d'.state.rank ≤ 5 * n + 3 := hhi
    rw [hopen, hseq] at hphase'
    exact absurd hphase' (hover (Nat.le_refl _))
  | @closed d hd hopen =>
    obtain rfl := Option.some.inj (hc.symm.trans hd)
    exact absurd hhi (hover (Nat.le_refl _))
  | @flushed d w m nextAck hd hstate =>
    obtain rfl := Option.some.inj (hc.symm.trans hd)
    exact ⟨_, rfl, rfl, rfl, rfl, fun _ => rfl, fun _ => rfl⟩
  | @timedOut d m hd =>
    obtain rfl := Option.some.inj (hc.symm.trans hd)
    rw [ChannelRecord.phase_of (ChannelRecord.channel_close c)] at hhi
    exact absurd hhi (hover (Nat.le_refl _))
  | @proposed d f timeout hd hopen =>
    obtain rfl := Option.some.inj (hc.symm.trans hd)
    have hnext := toNat_add_one (hcount.attempt c hc)
    have hfour : c.state.rank = 4 := by rw [hopen]; rfl
    have hphase' : 5 * (c.upgradeSequence + 1).toNat + 0 ≤ 5 * n + 3 := hhi
    omega
  | @answered d p hops m nextSend height remote hd hto hstate =>
    obtain rfl := Option.some.inj (hc.symm.trans hd)
    have hphase' : 5 * m.toNat + 1 ≤ 5 * n + 3 := hhi
    rcases hstate with ⟨hopen, hlt⟩ | ⟨hinit, own, -, htheirs⟩
    · have hlt := UInt64.lt_iff_toNat_lt.1 hlt
      have hfour : c.state.rank = 4 := by rw [hopen]; rfl
      omega
    · have hle := UInt64.le_iff_toNat_le.1 (sequence_le_of_theirs htheirs)
      have hzero : c.state.rank = 0 := by rw [hinit]; rfl
      simp only at hle
      refine ⟨_, rfl, rfl, rfl, UInt64.toNat_inj.1 ?_, fun hp => ?_, fun _ => rfl⟩
      · show m.toNat = _
        omega
      · have hp : 5 * n < r.phase ∨ 5 * m.toNat + 1 = 5 * n := hp
        omega
  | @acked d u w nextSend height remote hd hto hstate =>
    obtain rfl := Option.some.inj (hc.symm.trans hd)
    have hzero : c.state.rank = 0 := by rw [hstate]; rfl
    have hflush := ChannelRecord.rank_flushState r
    have hphase' : 5 * c.upgradeSequence.toNat + r.flushState.rank ≤ 5 * n + 3 := hhi
    refine ⟨_, rfl, rfl, rfl, rfl, fun hp => ?_, fun hp => ?_⟩
    · have hp : 5 * n < r.phase ∨ 5 * c.upgradeSequence.toNat + r.flushState.rank = 5 * n := hp
      omega
    · omega
  | @confirmed d u w state height remote hd hto hstate =>
    obtain rfl := Option.some.inj (hc.symm.trans hd)
    have hone : c.state.rank = 1 := by rw [hstate]; rfl
    have hflush := ChannelRecord.rank_flushState r
    have hphase' : 5 * c.upgradeSequence.toNat + r.flushState.rank ≤ 5 * n + 3 := hhi
    refine ⟨_, rfl, rfl, rfl, rfl, fun _ => rfl, fun hp => ?_⟩
    omega
  | @confirmedLast d u w height remote hd hto hstate =>
    obtain rfl := Option.some.inj (hc.symm.trans hd)
    exact absurd hhi (hover (Nat.le_refl _))
  | @committed d d' u w height remote hd hto hstate =>
    obtain rfl := Option.some.inj (hc.symm.trans hd)
    exact absurd hhi (hover (Nat.le_refl _))
  | @gaveUp d base m e hd hbase hstate =>
    obtain rfl := Option.some.inj (hc.symm.trans hd)
    have hnext := toNat_add_one (hcount'.receipt _ rfl)
    have hle := sequence_le_of_gaveUp hstate
    refine absurd hhi (hover (m := (m + 1).toNat) ?_)
    rw [show (m + 1).toNat = m.toNat + 1 from hnext]
    omega
  | _ => exact hsame rfl rfl rfl

/-- The error receipt of an end bears on attempts that are over. -/
theorem receipt_le (h : Turn v id r r' es) (hcount : r.Counting) (hcount' : r'.Counting)
    (hr : ∀ e, r.errorReceipt = some e → 5 * e.sequence.toNat + 4 ≤ r.phase) :
    ∀ e, r'.errorReceipt = some e → 5 * e.sequence.toNat + 4 ≤ r'.phase := by
  have hphase := h.phase_le hcount hcount'
  have hsame (hr' : r'.errorReceipt = r.errorReceipt) :
      ∀ e, r'.errorReceipt = some e → 5 * e.sequence.toNat + 4 ≤ r'.phase := fun e he =>
    Nat.le_trans (hr e (hr' ▸ he)) hphase
  cases h with
  | @timedOut c n hc hto hflight =>
    intro e he
    rw [ChannelRecord.phase_of (ChannelRecord.channel_close c)]
    unfold ChannelRecord.close at he
    split at he
    · obtain rfl := Option.some.inj he
      exact Nat.le_refl _
    · have := hr e he
      have hrank := c.state.rank_le
      rw [ChannelRecord.phase_of hc] at this
      show _ ≤ 5 * c.upgradeSequence.toNat + 4
      omega
  | @refused c e hc hopen =>
    intro e' he
    obtain rfl := Option.some.inj he
    have hphase' := ChannelRecord.phase_of hc
    rw [hopen] at hphase'
    exact Nat.le_of_eq hphase'.symm
  | @gaveUp c base n e hc hbase hstate =>
    intro e' he
    obtain rfl := Option.some.inj he
    have hnext := toNat_add_one (hcount'.receipt _ rfl)
    show 5 * n.toNat + 4 ≤ 5 * (n + 1).toNat + 4
    rw [show (n + 1).toNat = n.toNat + 1 from hnext]
    omega
  | confirmedLast => exact hsame (ChannelRecord.errorReceipt_commit ..)
  | committed => exact hsame (ChannelRecord.errorReceipt_commit ..)
  | _ => exact hsame rfl

/-- A deadline that an end keeps it was told of. -/
theorem deadline (h : Turn v id r r' es) {P : UpgradeTimeout → Prop} (hv : ∀ t, v.deadline t → P t)
    (hr : ∀ u, r.upgrade = some u → P u.timeout) : ∀ u, r'.upgrade = some u → P u.timeout := by
  cases h with
  | timedOut =>
    intro u hu
    unfold ChannelRecord.close at hu
    split at hu
    · cases hu
    · exact hr u hu
  | proposed _ _ _ _ hdeadline => rintro u ⟨⟩; exact hv _ hdeadline
  | answered _ _ _ _ _ _ _ hdeadline => rintro u ⟨⟩; exact hv _ hdeadline
  | @acked c u w nextSend height remote hc hto hstate hu =>
    rintro u' ⟨⟩
    exact hr u hu
  | confirmedLast => intro u hu; cases hu
  | committed => intro u hu; cases hu
  | gaveUp => intro u hu; cases hu
  | _ => exact hr

end Turn

end ChannelLayer
