import ChannelLayer.Proofs.Phase

/-!
# How an end got where it is

Inversion of turns. An end that has answered, stopped sending or flushed did so just now or had done so
before (`Turn.of_tryUpgrade`, `Turn.of_flushing`, `Turn.of_flushComplete`); a flushed end stays so until it
commits or finds an excuse (`Turn.of_flushed`); and once a channel is joined only a commit changes its
fields (`Turn.of_joined`).
-/

set_option autoImplicit false

namespace ChannelLayer

theorem Counterparty.ofEnd_inj {id id' : EndId} (h : ofEnd id = ofEnd id') : id = id' := by
  obtain ⟨port, channel⟩ := id
  obtain ⟨port', channel'⟩ := id'
  simpa [ofEnd] using h

/-- Flushing, or done with it. -/
def ChannelState.isFlushing : ChannelState → Bool
  | .flushing | .flushComplete => true
  | _ => false

/-- The handshake of the channel is over. -/
def ChannelState.isJoined : ChannelState → Bool
  | .init | .tryOpen => false
  | _ => true

theorem ChannelState.isJoined_of_isUpgrading {s : ChannelState} (h : s.isUpgrading = true) :
    s.isJoined = true := by
  cases s <;> first | rfl | cases h

theorem ChannelState.ne_init_of_isJoined {s : ChannelState} (h : s.isJoined = true) : s ≠ .init := by
  rintro rfl
  cases h

theorem ChannelState.ne_closed_of_isUpgrading {s : ChannelState} (h : s.isUpgrading = true) :
    s ≠ .closed := by
  intro hclosed
  rw [hclosed] at h
  cases h

theorem ChannelRecord.isFlushing_flushState (r : ChannelRecord) : r.flushState.isFlushing = true := by
  unfold flushState
  split <;> rfl

namespace Turn

variable [Digest] {v : View} {id : EndId} {r r' : ChannelRecord} {es : List Event}

/-! ## Joining an attempt -/

theorem of_tryUpgrade (h : Turn v id r r' es) {c' : ChannelEnd} (hc' : r'.channel = some c')
    (hstate : c'.state = .tryUpgrade) :
    r'.channel = r.channel ∧ r'.upgrade = r.upgrade ∨
    ∃ c p hops n nextSend height remote, r.channel = some c ∧ c.remote = .ofEnd remote ∧
      (c.state = .opened ∧ c.upgradeSequence < n ∨
        c.state = .initUpgrade ∧ ∃ own, r.upgrade = some own ∧
          upgradePrecedence ⟨c.upgradeSequence, own.fields, id⟩ ⟨n, p.fields, remote⟩ = .theirs) ∧
      v.mirrors height id c remote .initUpgrade n ∧ v.holdsUpgrade height remote p ∧
      v.hopsFace { p.fields with hops } p.fields ∧ v.deadline p.timeout ∧
      c' = { c with state := .tryUpgrade, upgradeSequence := n } ∧
      r'.upgrade = some ⟨{ p.fields with hops }, p.timeout, nextSend⟩ := by
  cases h with
  | @created c handle hnew hinit =>
    obtain rfl := Option.some.inj hc'
    rcases hinit with ⟨h, -⟩ | ⟨h, -⟩ <;> simp [h] at hstate
  | opened hc hinit hopen =>
    obtain rfl := Option.some.inj hc'
    simp [hopen] at hstate
  | closed => cases hc'; cases hstate
  | flushed => cases hc'; cases hstate
  | timedOut hc =>
    rw [ChannelRecord.channel_close] at hc'
    cases hc'
    cases hstate
  | proposed => cases hc'; cases hstate
  | @answered c p hops n nextSend height remote hc hto hguard hend hupgrade hhops hface hdeadline =>
    obtain rfl := Option.some.inj hc'
    exact .inr ⟨c, p, hops, n, nextSend, height, remote, hc, hto, hguard, hend, hupgrade, hface,
      hdeadline, rfl, rfl⟩
  | acked hc hto =>
    obtain rfl := Option.some.inj hc'
    have hflush := r.isFlushing_flushState
    rw [show r.flushState = .tryUpgrade from hstate] at hflush
    cases hflush
  | confirmed hc hto =>
    obtain rfl := Option.some.inj hc'
    have hflush := r.isFlushing_flushState
    rw [show r.flushState = .tryUpgrade from hstate] at hflush
    cases hflush
  | confirmedLast => cases hc'; cases hstate
  | committed => cases hc'; cases hstate
  | gaveUp => cases hc'; cases hstate
  | _ => exact .inl ⟨rfl, rfl⟩

/-- How an end came to flush that was `c` before, with the record going from `r` to `r'`: it did so before,
or its proposal was answered or its answer confirmed. -/
inductive Stops (v : View) (id : EndId) (r : ChannelRecord) (c : ChannelEnd) (r' : ChannelRecord) : Prop
  | before (hstate : c.state.isFlushing = true) (hu : r'.upgrade = r.upgrade)
      (hw : r'.counterpartyUpgrade = r.counterpartyUpgrade) : Stops v id r c r'
  | acked {u w : Upgrade} {nextSend : Sequence} {height : Height} {remote : EndId}
      (hstate : c.state = .initUpgrade) (hto : c.remote = .ofEnd remote) (hu : r.upgrade = some u)
      (hend : v.mirrors height id c remote .tryUpgrade c.upgradeSequence)
      (hupgrade : v.holdsUpgrade height remote w) (horder : u.fields.order = w.fields.order)
      (hface : v.hopsFace u.fields w.fields) (hdeadline : v.deadline w.timeout)
      (hu' : r'.upgrade = some
        { u with fields := { u.fields with version := w.fields.version }, nextSend })
      (hw' : r'.counterpartyUpgrade = some w) : Stops v id r c r'
  | confirmed {u w : Upgrade} {state : ChannelState} {height : Height} {remote : EndId}
      (hstate : c.state = .tryUpgrade) (hto : c.remote = .ofEnd remote) (hu : r.upgrade = some u)
      (htheirs : state = .flushing ∨ state = .flushComplete)
      (hend : v.mirrors height id c remote state c.upgradeSequence)
      (hupgrade : v.holdsUpgrade height remote w) (horder : w.fields.order = u.fields.order)
      (hversion : w.fields.version = u.fields.version) (hdeadline : v.deadline w.timeout)
      (hu' : r'.upgrade = r.upgrade) (hw' : r'.counterpartyUpgrade = some w) : Stops v id r c r'

omit [Digest] in
/-- Only the two upgrades that are kept matter. -/
theorem Stops.congr {c : ChannelEnd} {r'' : ChannelRecord} (h : Stops v id r c r')
    (hu : r''.upgrade = r'.upgrade) (hw : r''.counterpartyUpgrade = r'.counterpartyUpgrade) :
    Stops v id r c r'' := by
  cases h with
  | before hstate hu' hw' => exact .before hstate (hu.trans hu') (hw.trans hw')
  | acked hstate hto hu₀ hend hupgrade horder hface hdeadline hu' hw' =>
    exact .acked hstate hto hu₀ hend hupgrade horder hface hdeadline (hu.trans hu') (hw.trans hw')
  | confirmed hstate hto hu₀ htheirs hend hupgrade horder hversion hdeadline hu' hw' =>
    exact .confirmed hstate hto hu₀ htheirs hend hupgrade horder hversion hdeadline (hu.trans hu')
      (hw.trans hw')

theorem of_flushing (h : Turn v id r r' es) {c' : ChannelEnd} (hc' : r'.channel = some c')
    (hstate : c'.state.isFlushing = true) :
    ∃ c, r.channel = some c ∧ c'.remote = c.remote ∧ c'.fields = c.fields ∧
      c'.upgradeSequence = c.upgradeSequence ∧ Stops v id r c r' := by
  have hsame (hc : r'.channel = r.channel) (hu : r'.upgrade = r.upgrade)
      (hw : r'.counterpartyUpgrade = r.counterpartyUpgrade) : ∃ c, r.channel = some c ∧
        c'.remote = c.remote ∧ c'.fields = c.fields ∧ c'.upgradeSequence = c.upgradeSequence ∧
        Stops v id r c r' :=
    ⟨c', hc ▸ hc', rfl, rfl, rfl, .before hstate hu hw⟩
  cases h with
  | @created c handle hnew hinit =>
    obtain rfl := Option.some.inj hc'
    rcases hinit with ⟨h, -⟩ | ⟨h, -⟩ <;> simp [h, ChannelState.isFlushing] at hstate
  | opened hc hinit hopen =>
    obtain rfl := Option.some.inj hc'
    simp [hopen, ChannelState.isFlushing] at hstate
  | closed => cases hc'; cases hstate
  | @flushed c w n nextAck hc hflushing hw =>
    obtain rfl := Option.some.inj hc'
    exact ⟨c, hc, rfl, rfl, rfl, .before (by rw [hflushing]; rfl) rfl rfl⟩
  | timedOut hc =>
    rw [ChannelRecord.channel_close] at hc'
    cases hc'
    cases hstate
  | proposed => cases hc'; cases hstate
  | answered => cases hc'; cases hstate
  | acked hc hto hinit hu hend hupgrade horder hface hdeadline =>
    obtain rfl := Option.some.inj hc'
    exact ⟨_, hc, rfl, rfl, rfl, .acked hinit hto hu hend hupgrade horder hface hdeadline rfl rfl⟩
  | confirmed hc hto htry hu htheirs hend hupgrade horder hversion hdeadline =>
    obtain rfl := Option.some.inj hc'
    exact ⟨_, hc, rfl, rfl, rfl,
      .confirmed htry hto hu htheirs hend hupgrade horder hversion hdeadline rfl rfl⟩
  | confirmedLast => cases hc'; cases hstate
  | committed => cases hc'; cases hstate
  | gaveUp => cases hc'; cases hstate
  | _ => exact hsame rfl rfl rfl

/-- An end flushes completely only before the other end's deadline. -/
theorem of_flushComplete (h : Turn v id r r' es) {c' : ChannelEnd} (hc' : r'.channel = some c')
    (hstate : c'.state = .flushComplete) :
    r'.channel = r.channel ∧ r'.counterpartyUpgrade = r.counterpartyUpgrade ∨
    ∃ w, r'.counterpartyUpgrade = some w ∧
      w.timeout.hasElapsed v.host.height v.host.time = false := by
  cases h with
  | @created c handle hnew hinit =>
    obtain rfl := Option.some.inj hc'
    rcases hinit with ⟨h, -⟩ | ⟨h, -⟩ <;> simp [h] at hstate
  | opened hc hinit hopen =>
    obtain rfl := Option.some.inj hc'
    simp [hopen] at hstate
  | closed => cases hc'; cases hstate
  | flushed hc hflushing hw htime => exact .inr ⟨_, hw, htime⟩
  | timedOut hc =>
    rw [ChannelRecord.channel_close] at hc'
    cases hc'
    cases hstate
  | proposed => cases hc'; cases hstate
  | answered => cases hc'; cases hstate
  | acked hc hto hinit hu hend hupgrade horder hface hdeadline htime => exact .inr ⟨_, rfl, htime⟩
  | confirmed hc hto htry hu htheirs hend hupgrade horder hversion hdeadline htime =>
    exact .inr ⟨_, rfl, htime⟩
  | confirmedLast => cases hc'; cases hstate
  | committed => cases hc'; cases hstate
  | gaveUp => cases hc'; cases hstate
  | _ => exact .inl ⟨rfl, rfl⟩

/-! ## Staying in an attempt and leaving it -/

/-- The end runs the fields of its upgrade from this turn on. -/
def Commits (id : EndId) (r : ChannelRecord) (c : ChannelEnd) (es : List Event) : Prop :=
  ∃ u, r.upgrade = some u ∧ es = [.upgrade .opened (.ofEnd id (c.upgraded u.fields)) u.fields]

theorem of_flushed (h : Turn v id r r' es) (hr : r.Orderly) {c : ChannelEnd}
    (hc : r.channel = some c) (hstate : c.state = .flushComplete) :
    r'.channel = r.channel ∨ Commits id r c es ∨ v.Excuses id r c := by
  have hflight (n : Sequence) : r.commitments.get? n = none := by
    have hattempt := hr.attempting c hc
    simp only [ChannelRecord.Attempting, hstate] at hattempt
    obtain ⟨u, w, -, -, -, -, hempty⟩ := hattempt
    exact Table.isEmpty_iff.1 hempty n
  have hsame {d : ChannelEnd} (hd : r.channel = some d) : d = c :=
    Option.some.inj (hd.symm.trans hc)
  cases h with
  | created hnew => simp [hc] at hnew
  | opened hd hinit => obtain rfl := hsame hd; simp [hstate] at hinit
  | closed hd hopen => obtain rfl := hsame hd; simp [hstate] at hopen
  | flushed hd hflushing => obtain rfl := hsame hd; simp [hstate] at hflushing
  | timedOut hd hto hn => exact absurd (hflight _) hn
  | proposed hd hopen => obtain rfl := hsame hd; simp [hstate] at hopen
  | answered hd hto hguard => obtain rfl := hsame hd; simp [hstate] at hguard
  | acked hd hto hinit => obtain rfl := hsame hd; simp [hstate] at hinit
  | confirmed hd hto htry => obtain rfl := hsame hd; simp [hstate] at htry
  | confirmedLast hd hto htry => obtain rfl := hsame hd; simp [hstate] at htry
  | committed hd hto hdone hu => obtain rfl := hsame hd; exact .inr (.inl ⟨_, hu, rfl⟩)
  | gaveUp hd hbase hguard hexcuse =>
    obtain rfl := hsame hd
    exact .inr (.inr (hexcuse hstate).2)
  | _ => exact .inl rfl

/-- An end that has been told of its other end keeps it, and its fields unless it commits. -/
theorem of_met (h : Turn v id r r' es) {c : ChannelEnd} (hc : r.channel = some c)
    (hmet : c.state ≠ .init) :
    ∃ c', r'.channel = some c' ∧ c'.state ≠ .init ∧ (c.state.isJoined = true → c'.state.isJoined = true) ∧
      c'.remote = c.remote ∧ (c'.fields = c.fields ∨ Commits id r c es) := by
  have hsame {d : ChannelEnd} (hd : r.channel = some d) : d = c :=
    Option.some.inj (hd.symm.trans hc)
  -- All but an end that waits to be confirmed are joined after a turn that changes them.
  have hafter {c' : ChannelEnd} (hc' : r'.channel = some c') (hjoined : c'.state.isJoined = true)
      (hto : c'.remote = c.remote) (hfields : c'.fields = c.fields ∨ Commits id r c es) :
      ∃ c', r'.channel = some c' ∧ c'.state ≠ .init ∧
        (c.state.isJoined = true → c'.state.isJoined = true) ∧
        c'.remote = c.remote ∧ (c'.fields = c.fields ∨ Commits id r c es) :=
    ⟨c', hc', ChannelState.ne_init_of_isJoined hjoined, fun _ => hjoined, hto, hfields⟩
  have hflush : r.flushState.isJoined = true := by
    unfold ChannelRecord.flushState
    split <;> rfl
  cases h with
  | created hnew => simp [hc] at hnew
  | opened hd hinit hopen horder hto hhops =>
    obtain rfl := hsame hd
    rcases hinit with hinit | ⟨-, hremote, hversion⟩
    · exact absurd hinit hmet
    · exact hafter rfl (by rw [hopen]; rfl) hremote
        (.inl (by simp [ChannelEnd.fields, horder, hhops, hversion]))
  | closed hd => obtain rfl := hsame hd; exact hafter rfl rfl rfl (.inl rfl)
  | flushed hd => obtain rfl := hsame hd; exact hafter rfl rfl rfl (.inl rfl)
  | timedOut hd =>
    obtain rfl := hsame hd
    exact hafter (ChannelRecord.channel_close _) rfl rfl (.inl rfl)
  | proposed hd => obtain rfl := hsame hd; exact hafter rfl rfl rfl (.inl rfl)
  | answered hd => obtain rfl := hsame hd; exact hafter rfl rfl rfl (.inl rfl)
  | acked hd => obtain rfl := hsame hd; exact hafter rfl hflush rfl (.inl rfl)
  | confirmed hd => obtain rfl := hsame hd; exact hafter rfl hflush rfl (.inl rfl)
  | confirmedLast hd hto htry hu =>
    obtain rfl := hsame hd
    exact hafter (ChannelRecord.channel_commit ..) rfl rfl (.inr ⟨_, hu, rfl⟩)
  | committed hd hto hdone hu =>
    obtain rfl := hsame hd
    exact hafter (ChannelRecord.channel_commit ..) rfl rfl (.inr ⟨_, hu, rfl⟩)
  | gaveUp hd => obtain rfl := hsame hd; exact hafter rfl rfl rfl (.inl rfl)
  | _ => exact ⟨c, hc, hmet, fun hjoined => hjoined, rfl, .inl rfl⟩

/-- A joined channel keeps its other end, and its fields unless it commits. -/
theorem of_joined (h : Turn v id r r' es) {c : ChannelEnd} (hc : r.channel = some c)
    (hjoined : c.state.isJoined = true) :
    ∃ c', r'.channel = some c' ∧ c'.state.isJoined = true ∧ c'.remote = c.remote ∧
      (c'.fields = c.fields ∨ Commits id r c es) := by
  obtain ⟨c', hc', -, hjoined', hto, hfields⟩ := h.of_met hc (ChannelState.ne_init_of_isJoined hjoined)
  exact ⟨c', hc', hjoined' hjoined, hto, hfields⟩

/-- The end `c'` has just been shown the end that it is joined to, and starts to count. -/
structure Opens (v : View) (id : EndId) (r' : ChannelRecord) (c' : ChannelEnd) : Prop where
  shown : ∃ height remote state, state ≠ .init ∧ c'.remote = .ofEnd remote ∧
    v.mirrors height id c' remote state 0
  nextSend : r'.nextSend = some .one
  nextReceive : r'.nextReceive = some .one
  nextAck : r'.nextAck = some .one

/-- An end that is joined was so before, or a packet was in flight and it is closed now, or it has just
opened. -/
theorem of_isJoined (h : Turn v id r r' es) (hr : r.Orderly) {c' : ChannelEnd}
    (hc' : r'.channel = some c') (hjoined' : c'.state.isJoined = true) :
    (∃ c, r.channel = some c ∧ c.state.isJoined = true) ∨
      (c'.state = .closed ∧ ∃ n, r.commitments.get? n ≠ none) ∨ Opens v id r' c' := by
  -- Before most turns the end was in a state that the turn asks for.
  have hbefore {c : ChannelEnd} {state : ChannelState} (hc : r.channel = some c) (hstate : c.state = state)
      (hjoined : state.isJoined = true) : ∃ c, r.channel = some c ∧ c.state.isJoined = true := by
    subst hstate
    exact ⟨c, hc, hjoined⟩
  cases h with
  | created hnew hinit =>
    obtain rfl := Option.some.inj hc'
    rcases hinit with ⟨h, -⟩ | ⟨h, -⟩ <;> rw [h] at hjoined' <;> cases hjoined'
  | opened hc hinit hopen horder hto hhops hseq hend =>
    obtain rfl := Option.some.inj hc'
    exact .inr (.inr ⟨hend, rfl, rfl, rfl⟩)
  | closed hc hopen => exact .inl (hbefore hc hopen rfl)
  | flushed hc hstate => exact .inl (hbefore hc hstate rfl)
  | timedOut hc hto hflight =>
    rw [ChannelRecord.channel_close] at hc'
    cases hc'
    exact .inr (.inl ⟨rfl, _, hflight⟩)
  | proposed hc hopen => exact .inl (hbefore hc hopen rfl)
  | answered hc hto hguard =>
    rcases hguard with ⟨hopen, -⟩ | ⟨hinit, -⟩
    · exact .inl (hbefore hc hopen rfl)
    · exact .inl (hbefore hc hinit rfl)
  | acked hc hto hstate => exact .inl (hbefore hc hstate rfl)
  | confirmed hc hto hstate => exact .inl (hbefore hc hstate rfl)
  | confirmedLast hc hto hstate => exact .inl (hbefore hc hstate rfl)
  | committed hc hto hstate => exact .inl (hbefore hc hstate rfl)
  | gaveUp hc hbase hguard =>
    rcases hr.isUpgrading_or_opened hc hguard with hstate | hopen
    · exact .inl ⟨_, hc, ChannelState.isJoined_of_isUpgrading hstate⟩
    · exact .inl (hbefore hc hopen rfl)
  | _ => exact .inl ⟨_, hc', hjoined'⟩

/-- An end that does not answer keeps the ordering and the connection it goes for. -/
theorem of_upgrading (h : Turn v id r r' es) {c c' : ChannelEnd} {u : Upgrade}
    (hc : r.channel = some c) (hu : r.upgrade = some u) (hstate : c.state.isUpgrading = true)
    (hc' : r'.channel = some c') (hstate' : c'.state.isUpgrading = true)
    (hanswer : c'.state ≠ .tryUpgrade) :
    ∃ u', r'.upgrade = some u' ∧ u'.fields.order = u.fields.order ∧
      u'.fields.hops = u.fields.hops := by
  have hsame {d : ChannelEnd} (hd : r.channel = some d) : d = c :=
    Option.some.inj (hd.symm.trans hc)
  cases h with
  | created hnew => simp [hc] at hnew
  | timedOut => rw [ChannelRecord.channel_close] at hc'; cases hc'; cases hstate'
  | proposed hd hopen =>
    obtain rfl := hsame hd
    simp [hopen, ChannelState.isUpgrading] at hstate
  | answered => cases hc'; exact absurd rfl hanswer
  | acked hd hto hinit hu' =>
    obtain rfl := Option.some.inj (hu.symm.trans hu')
    exact ⟨_, rfl, rfl, rfl⟩
  | confirmedLast => cases hc'; cases hstate'
  | committed => cases hc'; cases hstate'
  | gaveUp => cases hc'; cases hstate'
  | _ => exact ⟨u, hu, rfl, rfl⟩

/-! ## Commits -/

/-- What an end committed on: the other end was seen to flush where nothing was in flight, or this end had
flushed and the other one was seen to have done so too or to have moved on. -/
inductive Grounds (v : View) (id : EndId) (r : ChannelRecord) (c : ChannelEnd) (u w : Upgrade) : Prop
  | confirmed {height : Height} {remote : EndId} (hstate : c.state = .tryUpgrade)
      (hto : c.remote = .ofEnd remote)
      (hend : v.mirrors height id c remote .flushComplete c.upgradeSequence)
      (hupgrade : v.holdsUpgrade height remote w) (horder : w.fields.order = u.fields.order)
      (hversion : w.fields.version = u.fields.version) (hdeadline : v.deadline w.timeout)
      (htime : w.timeout.hasElapsed v.host.height v.host.time = false) : Grounds v id r c u w
  | flushed {d : ChannelEnd} {height : Height} {remote : EndId}
      (hstate : c.state = .flushComplete) (hto : c.remote = .ofEnd remote)
      (hw : r.counterpartyUpgrade = some w) (hheld : v.holds height remote d)
      (hdone : d.state = .flushComplete ∧ d.upgradeSequence = c.upgradeSequence ∨
        (d.state = .opened ∨ d.state = .initUpgrade) ∧ c.upgradeSequence ≤ d.upgradeSequence ∧
          d.fields = ⟨u.fields.order, w.fields.hops, u.fields.version⟩) : Grounds v id r c u w

theorem of_commit (h : Turn v id r r' es) {info : UpgradeInfo} {f : UpgradeFields}
    (hcommit : .upgrade .opened info f ∈ es) :
    ∃ c u w, r.channel = some c ∧ r.upgrade = some u ∧ f = u.fields ∧
      info = .ofEnd id (c.upgraded u.fields) ∧ Grounds v id r c u w ∧ r' = r.commit c u w := by
  cases h with
  | receivedUnordered => simp at hcommit
  | receivedOrdered => simp at hcommit
  | timedOut hc hto hflight hes =>
    subst hes
    split at hcommit <;> simp at hcommit
  | refused => simp at hcommit
  | confirmedLast hc hto htry hu hend hupgrade horder hversion hdeadline htime =>
    simp only [List.mem_singleton, Event.upgrade.injEq, true_and] at hcommit
    exact ⟨_, _, _, hc, hu, hcommit.2, hcommit.1,
      .confirmed htry hto hend hupgrade horder hversion hdeadline htime, rfl⟩
  | committed hc hto hstate hu hw hheld hdone =>
    simp only [List.mem_singleton, Event.upgrade.injEq, true_and] at hcommit
    exact ⟨_, _, _, hc, hu, hcommit.2, hcommit.1, .flushed hstate hto hw hheld hdone, rfl⟩
  | gaveUp => simp at hcommit
  | _ => cases hcommit

/-! ## Ends of attempts -/

/-- An end whose attempt is over without a later one having begun has committed it or is closed. -/
theorem of_ending (h : Turn v id r r' es) (hcount' : r'.Counting) {c c' : ChannelEnd}
    (hc : r.channel = some c) (hstate : c.state.isUpgrading = true) (hc' : r'.channel = some c')
    (hstate' : c'.state.isUpgrading = false) (hseq : c'.upgradeSequence = c.upgradeSequence) :
    c'.state = .closed ∨ Commits id r c es := by
  have hsame {d : ChannelEnd} (hd : r.channel = some d) : d = c :=
    Option.some.inj (hd.symm.trans hc)
  have hflush : r.flushState.isUpgrading = true := by
    unfold ChannelRecord.flushState
    split <;> rfl
  cases h with
  | created hnew => simp [hc] at hnew
  | opened hd hinit =>
    obtain rfl := hsame hd
    rcases hinit with h | ⟨h, -⟩ <;> simp [h, ChannelState.isUpgrading] at hstate
  | closed hd hopen => obtain rfl := hsame hd; simp [hopen, ChannelState.isUpgrading] at hstate
  | flushed => cases hc'; cases hstate'
  | timedOut => rw [ChannelRecord.channel_close] at hc'; cases hc'; exact .inl rfl
  | proposed hd hopen => obtain rfl := hsame hd; simp [hopen, ChannelState.isUpgrading] at hstate
  | answered => cases hc'; cases hstate'
  | acked => cases hc'; simp [hflush] at hstate'
  | confirmed => cases hc'; simp [hflush] at hstate'
  | confirmedLast hd hto htry hu => obtain rfl := hsame hd; exact .inr ⟨_, hu, rfl⟩
  | committed hd hto hflushed hu => obtain rfl := hsame hd; exact .inr ⟨_, hu, rfl⟩
  | @gaveUp d base n e hd hbase hguard =>
    obtain rfl := hsame hd
    obtain rfl := Option.some.inj hc'
    have hnext := toNat_add_one (hcount'.receipt _ rfl)
    have hle := sequence_le_of_gaveUp hguard
    have hseq' := congrArg UInt64.toNat hseq
    simp only [ChannelEnd.receiptFor, ChannelEnd.reopened] at hnext hseq'
    omega
  | _ =>
    obtain rfl := hsame hc'
    simp [hstate] at hstate'

theorem of_closed (h : Turn v id r r' es) (hr : r.Orderly) {c : ChannelEnd} (hc : r.channel = some c)
    (hstate : c.state = .closed) : ∃ c', r'.channel = some c' ∧ c'.state = .closed := by
  have hsame {d : ChannelEnd} (hd : r.channel = some d) : d = c :=
    Option.some.inj (hd.symm.trans hc)
  cases h with
  | created hnew => simp [hc] at hnew
  | opened hd hinit => obtain rfl := hsame hd; simp [hstate] at hinit
  | closed => exact ⟨_, rfl, rfl⟩
  | flushed hd hflushing => obtain rfl := hsame hd; simp [hstate] at hflushing
  | timedOut hd => exact ⟨_, ChannelRecord.channel_close _, rfl⟩
  | proposed hd hopen => obtain rfl := hsame hd; simp [hstate] at hopen
  | answered hd hto hguard => obtain rfl := hsame hd; simp [hstate] at hguard
  | acked hd hto hinit => obtain rfl := hsame hd; simp [hstate] at hinit
  | confirmed hd hto htry => obtain rfl := hsame hd; simp [hstate] at htry
  | confirmedLast hd hto htry => obtain rfl := hsame hd; simp [hstate] at htry
  | committed hd hto hflushed => obtain rfl := hsame hd; simp [hstate] at hflushed
  | gaveUp hd hbase hguard =>
    obtain rfl := hsame hd
    have hattempt := hr.attempting _ hd
    simp only [ChannelRecord.Attempting, hstate] at hattempt
    simp [hstate, hattempt.1, ChannelState.isUpgrading] at hguard
  | _ => exact ⟨c, hc, hstate⟩

/-- An error receipt is left by an end that gives up an attempt, or is open, at the number of the receipt
or below. -/
theorem of_receipt (h : Turn v id r r' es) (hr : r.Orderly) {e : ErrorReceipt}
    (he : r'.errorReceipt = some e) :
    r.errorReceipt = some e ∨ ∃ c info state, r.channel = some c ∧
      Event.upgradeError info state e ∈ es ∧ c.upgradeSequence ≤ e.sequence ∧
      (c.state.isUpgrading = true ∨ c.state = .opened) := by
  cases h with
  | @timedOut c n hc hto hflight es' hes =>
    unfold ChannelRecord.close at he
    split at he
    · rename_i hupgrading
      obtain rfl := Option.some.inj he
      exact .inr ⟨c, _, _, hc, by rw [hes, if_pos hupgrading]; exact List.mem_singleton.2 rfl,
        UInt64.le_refl _, .inl hupgrading⟩
    · exact .inl he
  | refused hc hopen =>
    obtain rfl := Option.some.inj he
    exact .inr ⟨_, _, _, hc, List.mem_singleton.2 rfl, UInt64.le_refl _, .inr hopen⟩
  | confirmedLast => exact .inl ((ChannelRecord.errorReceipt_commit ..).symm.trans he)
  | committed => exact .inl ((ChannelRecord.errorReceipt_commit ..).symm.trans he)
  | @gaveUp c base n e' hc hbase hguard =>
    obtain rfl := Option.some.inj he
    refine .inr ⟨c, _, _, hc, List.mem_singleton.2 rfl, ?_, ?_⟩
    · rcases hguard with ⟨-, hle⟩ | ⟨-, hlt⟩
      · exact hle
      · exact UInt64.le_of_lt hlt
    · exact hr.isUpgrading_or_opened hc hguard
  | _ => exact .inl he

end Turn

end ChannelLayer
