import ChannelLayer.Proofs.Outcome

/-!
# The packets of an end

What a turn does to the packets of an end. Sending moves a counter that all packets in flight are below
(`Turn.tallied`). What was handed over is remembered by a receipt or by another counter, as the channel is
ordered (`Turn.of_hand`); receipts are for good (`Turn.received_iff`), and the counter stands for what it
remembers while the channel stays ordered, and from the commit that makes it so. So does a third counter, for
what was acknowledged (`Turn.of_ordered`).
-/

set_option autoImplicit false

namespace ChannelLayer

/-! ## Records -/

namespace ChannelRecord

/-- The handshake of the channel is over. -/
def IsJoined (r : ChannelRecord) : Prop := ∃ c, r.channel = some c ∧ c.state.isJoined = true

/-- Only a joined end has packets in flight, and it has sent them before the next one. -/
def Tallied (r : ChannelRecord) : Prop :=
  ∀ n, r.commitments.get? n ≠ none → r.IsJoined ∧ ∃ s, r.nextSend = some s ∧ n < s

/-- Only a joined end has packets in flight, and a joined end numbers what it sends, from one on. -/
structure Sending (r : ChannelRecord) : Prop where
  inFlight : ∀ n, r.commitments.get? n ≠ none → r.IsJoined
  counter : r.IsJoined → ∃ s, r.nextSend = some s ∧ .one ≤ s

/-- It is said how packets are ordered, now and after the upgrade. -/
structure Specified (r : ChannelRecord) : Prop where
  channel : ∀ c, r.channel = some c → c.order ≠ .unspecified
  upgrade : ∀ u, r.upgrade = some u → u.fields.order ≠ .unspecified

variable {r : ChannelRecord}

theorem sending_empty : ({} : ChannelRecord).Sending :=
  ⟨fun _ hn => absurd rfl hn, fun ⟨_, hc, _⟩ => (by cases hc)⟩

theorem not_isJoined_of_unopened {c : ChannelEnd} {p : Prop} (hc : r.channel = some c)
    (hstate : c.state = .init ∨ c.state = .tryOpen ∧ p) : ¬r.IsJoined := by
  rintro ⟨d, hd, hjoined⟩
  obtain rfl := Option.some.inj (hc.symm.trans hd)
  rcases hstate with h | ⟨h, -⟩ <;> rw [h] at hjoined <;> cases hjoined

/-- Past its proposal, an end in an attempt stands where its upgrade says. -/
theorem Orderly.nextSend_of_flushing (hr : r.Orderly) {c : ChannelEnd} {u : Upgrade}
    (hc : r.channel = some c) (hlo : 1 ≤ c.state.rank) (hhi : c.state.rank ≤ 3)
    (hu : r.upgrade = some u) : r.nextSend = some u.nextSend := by
  obtain ⟨u', hu', hnext⟩ : ∃ u', r.upgrade = some u' ∧ r.nextSend = some u'.nextSend := by
    have hattempt := hr.attempting c hc
    unfold Attempting at hattempt
    cases hs : c.state <;> simp only [hs, ChannelState.rank] at hattempt hlo hhi
    case tryUpgrade =>
      obtain ⟨u', hu', -, -, hnext⟩ := hattempt
      exact ⟨u', hu', hnext⟩
    case flushing =>
      obtain ⟨u', w, hu', -, -, hnext⟩ := hattempt
      exact ⟨u', hu', hnext⟩
    case flushComplete =>
      obtain ⟨u', w, hu', -, -, hnext, -⟩ := hattempt
      exact ⟨u', hu', hnext⟩
    all_goals omega
  obtain rfl := Option.some.inj (hu.symm.trans hu')
  exact hnext

theorem nextReceive_commit {c : ChannelEnd} {u w : Upgrade} (hc : c.order = .unordered)
    (hu : u.fields.order = .ordered) : (r.commit c u w).nextReceive = some w.nextSend := by
  simp [commit, resumeCounting, hc, hu]

theorem nextReceive_commit_of_ordered {c : ChannelEnd} {u w : Upgrade} (hc : c.order = .ordered) :
    (r.commit c u w).nextReceive = r.nextReceive := by
  simp [commit, resumeCounting, hc]

theorem nextAck_commit {c : ChannelEnd} {u w : Upgrade} (hc : c.order = .unordered)
    (hu : u.fields.order = .ordered) : (r.commit c u w).nextAck = some u.nextSend := by
  simp [commit, resumeCounting, hc, hu]

theorem nextAck_commit_of_ordered {c : ChannelEnd} {u w : Upgrade} (hc : c.order = .ordered) :
    (r.commit c u w).nextAck = r.nextAck := by
  simp [commit, resumeCounting, hc]

end ChannelRecord

theorem ChannelState.isJoined_of_receiving {s : ChannelState} (h : s ∈ receivingStates) :
    s.isJoined = true := by
  cases s <;> first | rfl | (simp [receivingStates] at h)

theorem ChannelState.isJoined_of_settling {s : ChannelState} (h : s ∈ settlingStates) :
    s.isJoined = true := by
  cases s <;> first | rfl | (simp [settlingStates] at h)

theorem ChannelState.isJoined_of_isSending {s : ChannelState} (h : s.isSending = true) :
    s.isJoined = true := by
  cases s <;> first | rfl | cases h

namespace Turn

variable [Digest] {v : View} {id : EndId} {r r' : ChannelRecord} {es : List Event}

theorem isJoined (h : Turn v id r r' es) (hjoined : r.IsJoined) : r'.IsJoined := by
  obtain ⟨c, hc, hstate⟩ := hjoined
  obtain ⟨c', hc', hstate', -⟩ := h.of_joined hc hstate
  exact ⟨c', hc', hstate'⟩

/-! ## Sending -/

/-- What a turn does to the packets in flight. -/
inductive Sends (v : View) (id : EndId) (r r' : ChannelRecord) : Prop
  | kept (hnext : r'.nextSend = r.nextSend) (hflight : r'.commitments = r.commitments) : Sends v id r r'
  | settled {n : Sequence} (hasked : v.settling id n) (hnext : r'.nextSend = r.nextSend)
      (hflight : r'.commitments = r.commitments.erase n) : Sends v id r r'
  | opened (hnew : ¬r.IsJoined) (hnext : r'.nextSend = some .one)
      (hflight : r'.commitments = r.commitments) (hjoined : r'.IsJoined) : Sends v id r r'
  | sent {p : Packet} (hasked : v.sending p) (hjoined : r.IsJoined) (hnext : r.nextSend = some p.sequence)
      (hnext' : r'.nextSend = some p.sequence.next)
      (hflight : r'.commitments = r.commitments.insert p.sequence p.commitment)
      (hsource : p.source = id) : Sends v id r r'

theorem sends (h : Turn v id r r' es) : Sends v id r r' := by
  cases h with
  | opened hc hstate hopen =>
    exact .opened (ChannelRecord.not_isJoined_of_unopened hc hstate) rfl rfl ⟨_, rfl, by rw [hopen]; rfl⟩
  | @sent c p hc hsending hsource hto hnext hasked =>
    exact .sent hasked ⟨c, hc, ChannelState.isJoined_of_isSending hsending⟩ hnext rfl rfl hsource
  | settled hflight hc hawaits hrest hasked => exact .settled hasked rfl rfl
  | flushed hc hstate hw htime hlast hflight hawaits hasked => exact .settled hasked rfl rfl
  | timedOut hc hto hflight hes horder hasked =>
    exact .settled (View.settling_of_lapsing hasked) (ChannelRecord.nextSend_close _)
      (ChannelRecord.commitments_close _)
  | confirmedLast => exact .kept (ChannelRecord.nextSend_commit ..) (ChannelRecord.commitments_commit ..)
  | committed => exact .kept (ChannelRecord.nextSend_commit ..) (ChannelRecord.commitments_commit ..)
  | gaveUp hc hbase =>
    rcases hbase with rfl | ⟨n, nextAck, rfl, -, -, hasked⟩
    · exact .kept rfl rfl
    · exact .settled hasked rfl rfl
  | _ => exact .kept rfl rfl

theorem tallied (h : Turn v id r r' es) (hr : r.Tallied) (hlast : r.nextSend ≠ some .last) :
    r'.Tallied := by
  intro k hk
  -- What was in flight stays below the counter.
  have hsame (hnext : r'.nextSend = r.nextSend) (hflight : r.commitments.get? k ≠ none) :
      r'.IsJoined ∧ ∃ s, r'.nextSend = some s ∧ k < s := by
    obtain ⟨hjoined, s, hs, hlt⟩ := hr k hflight
    exact ⟨h.isJoined hjoined, s, hnext.trans hs, hlt⟩
  cases h.sends with
  | kept hnext hflight =>
    rw [hflight] at hk
    exact hsame hnext hk
  | @settled n hasked hnext hflight =>
    rw [hflight, Table.get?_erase] at hk
    split at hk
    · exact absurd rfl hk
    · exact hsame hnext hk
  | opened hnew hnext hflight =>
    rw [hflight] at hk
    exact absurd (hr k hk).1 hnew
  | @sent p hasked hjoined hnext hnext' hflight =>
    have hlt : p.sequence < p.sequence.next := Sequence.lt_next (fun heq => hlast (heq ▸ hnext))
    refine ⟨h.isJoined hjoined, p.sequence.next, hnext', ?_⟩
    by_cases hkn : p.sequence = k
    · exact hkn ▸ hlt
    · rw [hflight, Table.get?_insert, if_neg hkn] at hk
      obtain ⟨-, s, hs, hks⟩ := hr k hk
      obtain rfl := Option.some.inj (hnext.symm.trans hs)
      exact Sequence.lt_trans hks hlt

/-- The counter of sent packets does not go back. -/
theorem nextSend_le (h : Turn v id r r' es) (hjoined : r.IsJoined) {s : Sequence}
    (hs : r.nextSend = some s) : ∃ s', r'.nextSend = some s' ∧ s ≤ s' := by
  cases h.sends with
  | kept hnext => exact ⟨s, hnext.trans hs, UInt64.le_refl _⟩
  | settled hasked hnext => exact ⟨s, hnext.trans hs, UInt64.le_refl _⟩
  | opened hnew => exact absurd hjoined hnew
  | sent hasked hjoined hnext hnext' =>
    obtain rfl := Option.some.inj (hs.symm.trans hnext)
    exact ⟨_, hnext', Sequence.le_next _⟩

theorem sending (h : Turn v id r r' es) (hr : r.Orderly) (hsending : r.Sending) : r'.Sending := by
  have hcounter (hjoined : r.IsJoined) : ∃ s, r'.nextSend = some s ∧ .one ≤ s := by
    obtain ⟨s, hs, hone⟩ := hsending.counter hjoined
    obtain ⟨s', hs', hle⟩ := h.nextSend_le hjoined hs
    exact ⟨s', hs', Sequence.le_trans hone hle⟩
  refine ⟨fun k hk => ?_, fun ⟨c', hc', hjoined'⟩ => ?_⟩
  · cases h.sends with
    | kept hnext hflight => rw [hflight] at hk; exact h.isJoined (hsending.inFlight k hk)
    | settled hasked hnext hflight =>
      rw [hflight, Table.get?_erase] at hk
      split at hk
      · exact absurd rfl hk
      · exact h.isJoined (hsending.inFlight k hk)
    | opened hnew hnext hflight hjoined => exact hjoined
    | sent hasked hjoined => exact h.isJoined hjoined
  · rcases h.of_isJoined hr hc' hjoined' with hjoined | ⟨-, n, hn⟩ | hopens
    · exact hcounter hjoined
    · exact hcounter (hsending.inFlight n hn)
    · exact ⟨.one, hopens.nextSend, UInt64.le_refl _⟩

/-! ## Handing over -/

/-- How an end remembers that it has handed over the packet `n`. -/
inductive Remembers (r r' : ChannelRecord) (n : Sequence) : ChannelOrder → Prop
  | receipt (hfirst : r.receipts.get? n ≠ some .received) : Remembers r r' n .unordered
  | counter (hnext : r.nextReceive = some n) (hnext' : r'.nextReceive = some n.next) :
      Remembers r r' n .ordered

omit [Digest] in
theorem Remembers.counter_of_ordered {n : Sequence} (h : Remembers r r' n .ordered) :
    r.nextReceive = some n ∧ r'.nextReceive = some n.next := by
  cases h with
  | counter hnext hnext' => exact ⟨hnext, hnext'⟩

omit [Digest] in
theorem Remembers.receipt_of_unordered {n : Sequence} (h : Remembers r r' n .unordered) :
    r.receipts.get? n ≠ some .received := by
  cases h with
  | receipt hfirst => exact hfirst

/-- A packet is handed over that the other end sent, by an end that has not yet remembered it. -/
theorem of_hand (h : Turn v id r r' es) {p : Packet} {order : ChannelOrder} {hop : ConnectionId}
    (hhand : .receivePacket p order hop ∈ es) :
    ∃ c height, r.channel = some c ∧ c.state.isJoined = true ∧ c.order = order ∧
      c.remote = .ofEnd p.source ∧
      (∀ w, r.counterpartyUpgrade = some w → ¬w.nextSend ≤ p.sequence) ∧
      v.shown height (.commitment p.source p.sequence) (some p.commitment) ∧
      r'.channel = r.channel ∧ Remembers r r' p.sequence order := by
  cases h with
  | @receivedUnordered c p' height hop' ack hc hstate horder hdest hfrom hbefore hshown hfirst =>
    simp only [List.mem_singleton, Event.receivePacket.injEq] at hhand
    obtain ⟨rfl, rfl, -⟩ := hhand
    refine ⟨c, height, hc, ChannelState.isJoined_of_receiving hstate, rfl, hfrom, hbefore, hshown,
      rfl, ?_⟩
    rw [horder]
    exact .receipt fun hreceived => hfirst (by rw [hreceived]; rfl)
  | @receivedOrdered c p' height hop' ack hc hstate horder hdest hfrom hbefore hshown hnext =>
    simp only [List.mem_singleton, Event.receivePacket.injEq] at hhand
    obtain ⟨rfl, rfl, -⟩ := hhand
    refine ⟨c, height, hc, ChannelState.isJoined_of_receiving hstate, rfl, hfrom, hbefore, hshown,
      rfl, ?_⟩
    rw [horder]
    exact .counter hnext rfl
  | timedOut hc hto hflight hes =>
    subst hes
    split at hhand <;> simp at hhand
  | refused => simp at hhand
  | confirmedLast => simp at hhand
  | committed => simp at hhand
  | gaveUp => simp at hhand
  | _ => cases hhand

/-- What is acknowledged of a packet stays as it is unless the packet is handed over. -/
theorem of_ack (h : Turn v id r r' es) (n : Sequence) : r'.acks.get? n = r.acks.get? n ∨
    ∃ p order hop, Event.receivePacket p order hop ∈ es ∧ p.sequence = n := by
  have hinsert {p : Packet} {order : ChannelOrder} {hop : ConnectionId} {ack : Bytes}
      (hacks : r'.acks = r.acks.insert p.sequence ack) (hhand : .receivePacket p order hop ∈ es) :
      r'.acks.get? n = r.acks.get? n ∨
        ∃ p order hop, Event.receivePacket p order hop ∈ es ∧ p.sequence = n := by
    by_cases hp : p.sequence = n
    · exact .inr ⟨p, order, hop, hhand, hp⟩
    · rw [hacks, Table.get?_insert, if_neg hp]
      exact .inl rfl
  cases h with
  | receivedUnordered => exact hinsert rfl (List.mem_singleton.2 rfl)
  | receivedOrdered => exact hinsert rfl (List.mem_singleton.2 rfl)
  | timedOut => exact .inl (by rw [ChannelRecord.acks_close]; rfl)
  | confirmedLast => exact .inl (by rw [ChannelRecord.acks_commit])
  | committed => exact .inl (by rw [ChannelRecord.acks_commit])
  | gaveUp hc hbase =>
    refine .inl ?_
    rcases hbase with rfl | ⟨m, nextAck, rfl, -⟩ <;> rfl
  | _ => exact .inl rfl

/-- Receipts are kept for good, and each is of a packet that was handed over. -/
theorem received_iff (h : Turn v id r r' es) {n : Sequence} :
    r'.receipts.get? n = some .received ↔ r.receipts.get? n = some .received ∨
      ∃ p hop, Event.receivePacket p .unordered hop ∈ es ∧ p.sequence = n := by
  have hsame (hnone : ∀ p hop, Event.receivePacket p .unordered hop ∉ es)
      (hkept : r'.receipts = r.receipts) : r'.receipts.get? n = some .received ↔
        r.receipts.get? n = some .received ∨
          ∃ p hop, Event.receivePacket p .unordered hop ∈ es ∧ p.sequence = n := by
    rw [hkept]
    refine ⟨.inl, fun hn => hn.resolve_right ?_⟩
    rintro ⟨p, hop, hmem, -⟩
    exact hnone p hop hmem
  cases h with
  | @receivedUnordered c p height hop ack hc hstate horder =>
    simp only [Table.get?_insert, horder, List.mem_singleton, Event.receivePacket.injEq, true_and]
    by_cases hn : p.sequence = n
    · simp [hn]
    · simp only [if_neg hn, iff_self_or]
      rintro ⟨p', hop', ⟨rfl, -⟩, hn'⟩
      exact absurd hn' hn
  | receivedOrdered hc hstate horder => exact hsame (by simp [horder]) rfl
  | timedOut hc hto hflight hes =>
    refine hsame (fun p hop hmem => ?_) (ChannelRecord.receipts_close _)
    subst hes
    split at hmem <;> simp at hmem
  | refused => exact hsame (by simp) rfl
  | confirmedLast => exact hsame (by simp) (ChannelRecord.receipts_commit ..)
  | committed => exact hsame (by simp) (ChannelRecord.receipts_commit ..)
  | gaveUp hc hbase =>
    refine hsame (by simp) ?_
    rcases hbase with rfl | ⟨m, nextAck, rfl, -⟩ <;> rfl
  | _ => exact hsame (by simp) rfl

/-! ## Ordering -/

theorem specified (h : Turn v id r r' es) (hr : r.Specified) : r'.Specified := by
  have hend {c : ChannelEnd} (hc : r'.channel = some c) (horder : c.order ≠ .unspecified)
      (hu : ∀ u, r'.upgrade = some u → u.fields.order ≠ .unspecified) : r'.Specified :=
    ⟨fun d hd => Option.some.inj (hc.symm.trans hd) ▸ horder, hu⟩
  -- Most turns keep the ordering of the end.
  have hkept {c c' : ChannelEnd} (hc : r.channel = some c) (hc' : r'.channel = some c')
      (hsame : c'.order = c.order)
      (hu : ∀ u, r'.upgrade = some u → u.fields.order ≠ .unspecified) : r'.Specified :=
    hend hc' (hsame ▸ hr.channel c hc) hu
  cases h with
  | idle => exact hr
  | created hnew hinit horder => exact hend rfl horder hr.upgrade
  | opened hc hinit hopen horder => exact hkept hc rfl horder hr.upgrade
  | closed hc => exact hkept hc rfl rfl hr.upgrade
  | flushed hc => exact hkept hc rfl rfl hr.upgrade
  | timedOut hc =>
    refine hkept hc (ChannelRecord.channel_close _) rfl fun u hu => ?_
    unfold ChannelRecord.close at hu
    split at hu
    · cases hu
    · exact hr.upgrade u hu
  | proposed hc hopen hnew hhops hdeadline horder =>
    exact hkept hc rfl rfl fun u hu => Option.some.inj hu ▸ horder
  | answered hc hto hguard hend' hupgrade hhops hface hdeadline htime hnext horder =>
    exact hkept hc rfl rfl fun u hu => Option.some.inj hu ▸ horder
  | @acked c u w nextSend height remote hc hto hinit hu =>
    refine hkept hc rfl rfl fun u' hu' => ?_
    obtain rfl := Option.some.inj hu'
    exact hr.upgrade u hu
  | confirmed hc => exact hkept hc rfl rfl hr.upgrade
  | confirmedLast hc hto htry hu =>
    exact hend (ChannelRecord.channel_commit ..) (hr.upgrade _ hu) fun u hu' => by cases hu'
  | committed hc hto hdone hu =>
    exact hend (ChannelRecord.channel_commit ..) (hr.upgrade _ hu) fun u hu' => by cases hu'
  | gaveUp hc => exact hkept hc rfl rfl fun u hu => by cases hu
  | _ => exact ⟨hr.channel, hr.upgrade⟩

/-- How the counters of an end that is ordered after a turn got where they are: neither has moved, a packet was
handed over or was acknowledged, or the end has become ordered by a commit. -/
inductive Counts (v : View) (id : EndId) (r r' : ChannelRecord) (es : List Event) : Prop
  | kept {c : ChannelEnd} (hc : r.channel = some c) (horder : c.order = .ordered)
      (hreceive : r'.nextReceive = r.nextReceive) (hack : r'.nextAck = r.nextAck) : Counts v id r r' es
  | handed {c : ChannelEnd} {p : Packet} {hop : ConnectionId} (hc : r.channel = some c)
      (horder : c.order = .ordered) (hhand : .receivePacket p .ordered hop ∈ es)
      (hack : r'.nextAck = r.nextAck) : Counts v id r r' es
  | acknowledged {c : ChannelEnd} {n : Sequence} (hc : r.channel = some c) (horder : c.order = .ordered)
      (hreceive : r'.nextReceive = r.nextReceive) (hshown : v.acknowledged c n)
      (hack : r'.nextAck = some n.next) : Counts v id r r' es
  | resumed {c : ChannelEnd} {u : Upgrade} (hc : r.channel = some c) (horder : c.order = .unordered)
      (hu : r.upgrade = some u) (hnew : u.fields.order = .ordered) (hcommits : Commits id r c es)
      (hack : r'.nextAck = some u.nextSend) : Counts v id r r' es

theorem of_ordered (h : Turn v id r r' es) (hr : r.Specified) (hjoined : r.IsJoined)
    {c' : ChannelEnd} (hc' : r'.channel = some c') (horder : c'.order = .ordered) :
    Counts v id r r' es := by
  have hkept {c : ChannelEnd} (hc : r.channel = some c) (hsame : c'.order = c.order)
      (hreceive : r'.nextReceive = r.nextReceive) (hack : r'.nextAck = r.nextAck) :
      Counts v id r r' es := .kept hc (hsame ▸ horder) hreceive hack
  have hsettled {c : ChannelEnd} {n : Sequence} {nextAck : Option Sequence} (hc : r.channel = some c)
      (hsame : c'.order = c.order) (hawaits : r.Awaits v c n nextAck)
      (hreceive : r'.nextReceive = r.nextReceive) (hack : r'.nextAck = nextAck) :
      Counts v id r r' es := by
    have hordered : c.order = .ordered := hsame ▸ horder
    exact .acknowledged hc hordered hreceive (hawaits.acknowledged hordered)
      (hack.trans (hawaits.ordered hordered).2)
  have hcommit {c : ChannelEnd} {u w : Upgrade} (hc : r.channel = some c) (hu : r.upgrade = some u)
      (hnew : u.fields.order = .ordered) (hreceive : r'.nextReceive = (r.commit c u w).nextReceive)
      (hack : r'.nextAck = (r.commit c u w).nextAck)
      (hes : es = [.upgrade .opened (.ofEnd id (c.upgraded u.fields)) u.fields]) :
      Counts v id r r' es := by
    cases hold : c.order with
    | unspecified => exact absurd hold (hr.channel c hc)
    | unordered =>
      rw [ChannelRecord.nextAck_commit hold hnew] at hack
      exact .resumed hc hold hu hnew ⟨u, hu, hes⟩ hack
    | ordered =>
      rw [ChannelRecord.nextReceive_commit_of_ordered hold] at hreceive
      rw [ChannelRecord.nextAck_commit_of_ordered hold] at hack
      exact .kept hc hold hreceive hack
  cases h with
  | created hnew =>
    obtain ⟨d, hd, -⟩ := hjoined
    simp [hnew] at hd
  | opened hc hinit => exact absurd hjoined (ChannelRecord.not_isJoined_of_unopened hc hinit)
  | closed hc => obtain rfl := Option.some.inj hc'; exact hkept hc rfl rfl rfl
  | receivedOrdered hc hstate hordered =>
    rw [hordered]
    exact .handed hc hordered (List.mem_singleton.2 rfl) rfl
  | settled hflight hc hawaits =>
    obtain rfl := Option.some.inj (hc.symm.trans hc')
    exact hsettled hc rfl hawaits rfl rfl
  | flushed hc hstate hw htime hlast hflight hawaits =>
    obtain rfl := Option.some.inj hc'
    exact hsettled hc rfl hawaits rfl rfl
  | timedOut hc =>
    rw [ChannelRecord.channel_close] at hc'
    obtain rfl := Option.some.inj hc'
    exact hkept hc rfl (ChannelRecord.nextReceive_close _) (ChannelRecord.nextAck_close _)
  | proposed hc => obtain rfl := Option.some.inj hc'; exact hkept hc rfl rfl rfl
  | answered hc => obtain rfl := Option.some.inj hc'; exact hkept hc rfl rfl rfl
  | acked hc => obtain rfl := Option.some.inj hc'; exact hkept hc rfl rfl rfl
  | confirmed hc => obtain rfl := Option.some.inj hc'; exact hkept hc rfl rfl rfl
  | confirmedLast hc hto htry hu =>
    obtain rfl := Option.some.inj hc'
    exact hcommit hc hu horder rfl rfl rfl
  | committed hc hto hdone hu =>
    obtain rfl := Option.some.inj hc'
    exact hcommit hc hu horder rfl rfl rfl
  | gaveUp hc hbase =>
    obtain rfl := Option.some.inj hc'
    rcases hbase with rfl | ⟨m, nextAck, rfl, -, hawaits, -⟩
    · exact hkept hc rfl rfl rfl
    · exact hsettled hc rfl hawaits rfl rfl
  | _ => exact hkept hc' rfl rfl rfl

end Turn

end ChannelLayer
