import ChannelLayer.Proofs.LifeCycle
import ChannelLayer.Proofs.WaysOut

/-!
# Attempts that come to nothing

An end abandons an attempt in many ways (`ChannelLayer.Proofs.WaysOut`). Each of them takes it out of the attempt
(`Course.abandons_of_wayOut`), no end gets out otherwise without committing (`Course.wayOut_of_abandons`), and all
of them leave the same picture (`Course.Restored`): the channel is on the fields that it was on before, both
upgrades are gone, and an error receipt says which attempts are over. Nothing else is touched but the packet that
was settled on the way.
-/

set_option autoImplicit false

namespace ChannelLayer

/-! ## One turn -/

namespace ChannelRecord

variable (done : Message → Prop) (id : EndId) (c : ChannelEnd) (r : ChannelRecord)

/-- The record `r` of the end `c` as it is, or with a packet in flight settled by a message that takes effect;
an ordered end may then wait for the packet after it. -/
inductive SettlesTo : ChannelRecord → Prop
  | kept : SettlesTo r
  | settled {m : Message} {n : Sequence} {nextAck : Option Sequence} (hm : done m)
      (hsettles : m.settles? = some (id, n)) (hflight : r.commitments.get? n ≠ none)
      (hnext : nextAck = r.nextAck ∨
        c.order = .ordered ∧ r.nextAck = some n ∧ nextAck = some n.next) : SettlesTo (r.settle n nextAck)

/-- The end `c` with the record `r` is `c'` with the record `r'` from now on, out of its attempt, and has left
the receipt `e`. -/
structure Abandons (r' : ChannelRecord) (c' : ChannelEnd) (e : ErrorReceipt) : Prop where
  outcome : c' = { c with state := .opened, upgradeSequence := e.sequence + 1 } ∨
    c' = { c with state := .closed } ∧ e.sequence = c.upgradeSequence
  record : ∃ base, SettlesTo done id c r base ∧
    r' = { base with channel := some c', upgrade := none, counterpartyUpgrade := none, errorReceipt := some e }

variable {done id c r}

theorem SettlesTo.imp {done' : Message → Prop} {base : ChannelRecord} (h : SettlesTo done id c r base)
    (hdone : ∀ m, done m → done' m) : SettlesTo done' id c r base := by
  cases h with
  | kept => exact .kept
  | settled hm hsettles hflight hnext => exact .settled (hdone _ hm) hsettles hflight hnext

theorem Abandons.imp {done' : Message → Prop} {r' : ChannelRecord} {c' : ChannelEnd} {e : ErrorReceipt}
    (h : Abandons done id c r r' c' e) (hdone : ∀ m, done m → done' m) :
    Abandons done' id c r r' c' e := by
  obtain ⟨base, hbase, hr'⟩ := h.record
  exact ⟨h.outcome, base, hbase.imp hdone, hr'⟩

/-- An end that gives its attempt up at the sequence `n`. -/
theorem Abandons.of_giveUp {base : ChannelRecord} {n : UInt64} {cause : UpgradeError}
    (h : SettlesTo done id c r base) :
    Abandons done id c r (base.giveUp { c with upgradeSequence := n } cause)
      ({ c with upgradeSequence := n } : ChannelEnd).reopened
      (({ c with upgradeSequence := n } : ChannelEnd).receiptFor cause) :=
  ⟨.inl rfl, base, h, rfl⟩

end ChannelRecord

namespace Turn

variable [Digest] {v : View} {id : EndId} {r r' : ChannelRecord} {es : List Event}

/-- An end that gets out of its attempt without committing it has given it up or is closed. -/
theorem abandons (h : Turn v id r r' es) {c : ChannelEnd} (hc : r.channel = some c)
    (hin : c.state.isUpgrading = true)
    (hout : ∀ c', r'.channel = some c' → c'.state.isUpgrading = false)
    (hnot : ∀ info f, Event.upgrade .opened info f ∉ es) :
    ∃ c' e, r.Abandons v.delivered id c r' c' e ∧ c.upgradeSequence ≤ e.sequence := by
  have hsame {d : ChannelEnd} (hd : r.channel = some d) : d = c :=
    Option.some.inj (hd.symm.trans hc)
  -- A turn that leaves the end in an attempt is none of these.
  have hstays {c' : ChannelEnd} (hc' : r'.channel = some c') (hin' : c'.state.isUpgrading = true) :
      ∃ c' e, r.Abandons v.delivered id c r' c' e ∧ c.upgradeSequence ≤ e.sequence := by
    rw [hout c' hc'] at hin'
    cases hin'
  cases h with
  | created hnew => simp [hc] at hnew
  | opened hd hstate =>
    obtain rfl := hsame hd
    rcases hstate with hstate | ⟨hstate, -⟩ <;> rw [hstate] at hin <;> cases hin
  | closed hd hopen => obtain rfl := hsame hd; rw [hopen] at hin; cases hin
  | flushed => exact hstays rfl rfl
  | @timedOut d n hd hto hflight es' hes hordered hlapsing =>
    obtain rfl := hsame hd
    obtain ⟨m, hm, hsettles⟩ := View.settling_of_lapsing hlapsing
    refine ⟨{ d with state := .closed }, d.receiptFor .channelClosed,
      ⟨.inr ⟨rfl, rfl⟩, _, .settled hm hsettles hflight (.inl rfl), ?_⟩, UInt64.le_refl _⟩
    rw [ChannelRecord.close, if_pos hin]
  | proposed => exact hstays rfl rfl
  | answered => exact hstays rfl rfl
  | acked => exact hstays rfl r.isUpgrading_flushState
  | confirmed => exact hstays rfl r.isUpgrading_flushState
  | confirmedLast => exact absurd (List.mem_singleton.2 rfl) (hnot _ _)
  | committed => exact absurd (List.mem_singleton.2 rfl) (hnot _ _)
  | @gaveUp d base n cause hd hbase hguard =>
    obtain rfl := hsame hd
    refine ⟨_, _, .of_giveUp ?_, UInt64.le_iff_toNat_le.2 (sequence_le_of_gaveUp hguard)⟩
    rcases hbase with rfl | ⟨k, nextAck, rfl, hflight, hawaits, m, hm, hsettles⟩
    · exact .kept
    · refine .settled hm hsettles hflight ?_
      by_cases hordered : d.order = .ordered
      · exact .inr ⟨hordered, hawaits.ordered hordered⟩
      · exact .inl (hawaits.otherwise hordered)
  | _ => exact hstays hc hin

end Turn

/-! ## A course -/

namespace Course

section
variable [Digest] (course : Course)

/-- At world `i` the end `id` is in an upgrade attempt. -/
def InAttempt (i : Nat) (id : EndId) : Prop :=
  ∃ c, (course.record i id).channel = some c ∧ c.state.isUpgrading = true

/-- Deed `k` has taken the end `id`, which was open as `c₀`, into the attempt that it is in up to world `i`. -/
structure Entered (k i : Nat) (id : EndId) (c₀ : ChannelEnd) : Prop where
  le : k ≤ i
  channel : (course.record k id).channel = some c₀
  opened : c₀.state = .opened
  within : ∀ j, k < j → j ≤ i → course.InAttempt j id

/-- In deed `i` the end `id`, which is `c`, abandons the attempt `n`: it gets out of the attempt that it was in
without committing it, or it is asked to join one that is not behind it and does not. -/
inductive Abandons (i : Nat) (id : EndId) (c : ChannelEnd) : UInt64 → Prop
  | left (hin : c.state.isUpgrading = true) (hout : ¬course.InAttempt (i + 1) id)
      (hnot : ∀ info f, Event.upgrade .opened info f ∉ course.happens i id) :
      Abandons i id c c.upgradeSequence
  | declined {m : Message.UpgradeTry} (hm : course.Succeeds i (.upgradeTry m)) (hid : m.id = id)
      (hnew : c.state = .initUpgrade ∨ c.upgradeSequence < m.counterpartySequence)
      (hout : ¬course.InAttempt (i + 1) id) : Abandons i id c m.counterpartySequence

/-- In deed `i` the end `id`, which is `c`, takes one of the ways out of the attempt `n`: the message of the deed
takes effect, beside the application of its port. -/
def WayOut (i : Nat) (id : EndId) (c : ChannelEnd) (n : UInt64) : Prop :=
  ∃ m name app, course.Succeeds i m ∧ (course.chain i).router.find m.port = .ok (name, app) ∧
    m.WayOut (course.view i) app id (course.record i id) c n

/-- The end `id`, which was `c`, is `c'` after deed `i`, on the fields and with the other end that it had when
it entered the attempt `n`. It has left the receipt `e`, and it is closed if its channel is ordered and a packet
was not received. No other end is touched. -/
structure Restored (i : Nat) (id : EndId) (c : ChannelEnd) (n : UInt64) (c' : ChannelEnd) (e : ErrorReceipt) :
    Prop where
  abandons : (course.record i id).Abandons (course.Succeeds i) id c (course.record (i + 1) id) c' e
  receipt : n ≤ e.sequence
  closed : c'.state = .closed ↔
    c.order = .ordered ∧ ∃ m k, course.Succeeds i m ∧ m.lapses? = some (id, k)
  settled : ∀ m k, course.Succeeds i m → m.settles? = some (id, k) →
    (course.record (i + 1) id).commitments = (course.record i id).commitments.erase k
  before : ∃ k c₀, course.Entered k i id c₀ ∧ c'.remote = c₀.remote ∧ c'.fields = c₀.fields
  others : ∀ id', id' ≠ id → course.record (i + 1) id' = course.record i id'
  connections : (course.chain (i + 1)).store.connections = (course.chain i).store.connections

end

section
variable [Digest] {course : Course} {i : Nat} {id : EndId} {c : ChannelEnd} {n : UInt64}

/-- A message that is delivered with success was accepted and has executed beside the application of its port,
which is a sample. -/
theorem Succeeds.executed {m : Message} (h : course.Succeeds i m) (hi : course.Standing i) :
    ∃ name app l', (course.chain i).router.find m.port = .ok (name, app) ∧ app.isSample = true ∧
      m.validate (course.chain i).host (course.chain i).store app = .ok () ∧
      m.execute (course.chain i).host ⟨(course.chain i).store, app⟩ = .ok () l' ∧
      (course.chain (i + 1)).store = l'.store := by
  obtain ⟨hdeed, htakes⟩ := h
  obtain ⟨name, app, l', hfind, hv, hx, hafter⟩ := Chain.after_of_takes htakes
  refine ⟨name, app, l', hfind, hi.applications.find hfind, hv, hx, ?_⟩
  rw [chain_succ hdeed, Chain.undergo, hafter]
  rfl

/-- An end has entered the attempt that it is in on the fields that it has. -/
theorem entered (h : course.Regular) (hc : (course.record i id).channel = some c)
    (hstate : c.state = .opened ∨ c.state.isUpgrading = true) :
    ∃ k c₀, course.Entered k i id c₀ ∧ c.remote = c₀.remote ∧ c.fields = c₀.fields := by
  induction i generalizing c with
  | zero =>
    rw [record_zero h] at hc
    cases hc
  | succ i ih =>
    rcases hstate with hopen | hin
    · exact ⟨i + 1, c, ⟨Nat.le_refl _, hc, hopen, fun j hj hji => by omega⟩, rfl, rfl⟩
    cases hb : (course.record i id).channel with
    | none =>
      rcases turn (standing h i) id with ⟨es, hturn⟩ | hreleased
      · rcases (hturn.of_new hb hc).2 with hstate | hstate <;> rw [hstate] at hin <;> cases hin
      · rw [hreleased] at hc
        cases hb.symm.trans hc
    | some b =>
      obtain ⟨c', hc', hpasses⟩ := passes h hb
      obtain rfl := Option.some.inj (hc.symm.trans hc')
      have hkept : c.remote = b.remote ∧ c.fields = b.fields := by
        cases hpasses.revised with
        | kept hremote hfields => exact ⟨hremote, hfields⟩
        | told hm hid hstate hend => subst hend; cases hin
        | committed hm hid hu hend => subst hend; cases hin
      have hhere (j : Nat) (hij : i < j) (hj : j ≤ i + 1) : course.InAttempt j id := by
        obtain rfl : j = i + 1 := by omega
        exact ⟨c, hc, hin⟩
      rcases ChannelState.opened_or_isUpgrading hpasses.state hin with hopen | hin'
      · exact ⟨i, b, ⟨Nat.le_succ i, hb, hopen, hhere⟩, hkept⟩
      · obtain ⟨k, c₀, hentered, hremote, hfields⟩ := ih hb (.inr hin')
        refine ⟨k, c₀, ⟨Nat.le_succ_of_le hentered.le, hentered.channel, hentered.opened, ?_⟩,
          hkept.1.trans hremote, hkept.2.trans hfields⟩
        intro j hkj hj
        rcases Nat.lt_or_ge i j with hij | hji
        · exact hhere j hij hj
        · exact hentered.within j hkj hji

/-- Where the end `id` takes a turn, nothing else is touched. -/
theorem others_kept {v : View}
    (h : (course.chain i).store.TakesTurn v id (course.chain (i + 1)).store) :
    (∀ id', id' ≠ id → course.record (i + 1) id' = course.record i id') ∧
      (course.chain (i + 1)).store.connections = (course.chain i).store.connections := by
  obtain ⟨r, es, hw, -⟩ := h
  refine ⟨fun id' hid' => ?_, hw.connections⟩
  rw [record, hw.record, if_neg (Ne.symm hid')]
  rfl

/-- Only a message that takes effect changes an end. -/
theorem succeeds_of_channel (hchanged : (course.record (i + 1) id).channel ≠ (course.record i id).channel) :
    ∃ m, course.Succeeds i m := by
  cases hdeed : course.deeds[i]? with
  | none => exact absurd (by rw [record, record, chain_over hdeed]) hchanged
  | some deed =>
    have heffect := (course.chain i).effect deed
    rw [← chain_succ hdeed] at heffect
    cases heffect with
    | idle hstore => exact absurd (by rw [record, record, hstore]) hchanged
    | @delivered m app l' hdeed' htakes => exact ⟨m, hdeed' ▸ hdeed, htakes⟩
    | sent hdeed' hvalid hx => exact absurd (Packet.record_executeSend hx id).1 hchanged
    | released hstore =>
      refine absurd ?_ hchanged
      rw [record, record, hstore, Store.record_update]
      split
      · rename_i hid
        rw [hid]
      · rfl

/-- A deed that changes an end has it take a turn. -/
theorem takesTurn_of_changed (h : course.Standing i)
    (hchanged : (course.record (i + 1) id).channel ≠ (course.record i id).channel) :
    (course.chain i).store.TakesTurn (course.view i) id (course.chain (i + 1)).store := by
  obtain ⟨m, hm⟩ := succeeds_of_channel hchanged
  obtain ⟨name, app, l', -, happ, hv, hx, hstore⟩ := hm.executed h
  obtain ⟨id₀, hturn⟩ := Message.turn happ (fits hm.1) h.named.namesAnew hv hx
  replace hturn := hturn.toStore
  rw [← hstore] at hturn
  obtain rfl : id₀ = id := by
    refine Decidable.byContradiction fun hne => hchanged ?_
    rw [(others_kept hturn).1 id (Ne.symm hne)]
  exact hturn

/-- What an end does in a deed in which it abandons an attempt. -/
structure Leaves (course : Course) (i : Nat) (id : EndId) (c : ChannelEnd) (n : UInt64) (c' : ChannelEnd)
    (e : ErrorReceipt) : Prop where
  abandons : (course.record i id).Abandons (course.Succeeds i) id c (course.record (i + 1) id) c' e
  sequence : c.upgradeSequence ≤ n
  receipt : n ≤ e.sequence
  state : c.state = .opened ∨ c.state.isUpgrading = true
  closed : c'.state = .closed → c.state.isUpgrading = true
  turn : (course.chain i).store.TakesTurn (course.view i) id (course.chain (i + 1)).store

theorem Leaves.channel {c' : ChannelEnd} {e : ErrorReceipt} (h : course.Leaves i id c n c' e) :
    (course.record (i + 1) id).channel = some c' := by
  obtain ⟨base, -, hrecord⟩ := h.abandons.record
  rw [hrecord]

/-- An end drops an attempt where it is in none after the deed and has put no upgrade in force. -/
theorem drops_iff : (course.chain i).store.Drops (course.chain (i + 1)).store id ↔
    ¬course.InAttempt (i + 1) id ∧ ∀ info f, Event.upgrade .opened info f ∉ course.happens i id := by
  constructor
  · intro h
    exact ⟨fun ⟨_, hc, hin⟩ => h.not_upgrading hc hin, h.uncommitted⟩
  · rintro ⟨hout, hnot⟩
    exact ⟨fun c hc => Bool.eq_false_iff.2 fun hin => hout ⟨c, hc, hin⟩, hnot⟩

theorem leaves_of_left (h : course.Regular) (hc : (course.record i id).channel = some c)
    (hin : c.state.isUpgrading = true) (hout : ¬course.InAttempt (i + 1) id)
    (hnot : ∀ info f, Event.upgrade .opened info f ∉ course.happens i id) :
    ∃ c' e, course.Leaves i id c c.upgradeSequence c' e := by
  have hi := standing h i
  have hchanged : (course.record (i + 1) id).channel ≠ (course.record i id).channel :=
    fun hsame => hout ⟨c, hsame.trans hc, hin⟩
  rcases turn_happens hi id with hturn | hreleased
  · obtain ⟨c', e, hleaves, hle⟩ := hturn.abandons hc hin (drops_iff.2 ⟨hout, hnot⟩).idle hnot
    refine ⟨c', e, hleaves.imp fun m hm => ?_, UInt64.le_refl _, hle, .inr hin, fun _ => hin,
      takesTurn_of_changed hi hchanged⟩
    refine succeeds_of_changed hm fun hstore => hchanged ?_
    rw [record, record, hstore]
  · rw [hreleased] at hchanged
    exact absurd rfl hchanged

theorem leaves_of_declined {m : Message.UpgradeTry} (h : course.Regular)
    (hc : (course.record i m.id).channel = some c) (hm : course.Succeeds i (.upgradeTry m))
    (hnew : c.state = .initUpgrade ∨ c.upgradeSequence < m.counterpartySequence)
    (hout : ¬course.InAttempt (i + 1) m.id) :
    ∃ c' e, course.Leaves i m.id c m.counterpartySequence c' e := by
  obtain ⟨name, app, l', -, happ, hv, hx, hstore⟩ := hm.executed (standing h i)
  have hrecord : course.record (i + 1) m.id = l'.store.record m.id := by rw [record, hstore]
  have hturn := (Message.UpgradeTry.turn happ (fits hm.1) hv hx).toStore
  rw [← hstore] at hturn
  obtain ⟨hstate, hle⟩ := Message.UpgradeTry.sequence_le hv hc hnew
  rcases Message.UpgradeTry.joins_or_gives_up (fits hm.1) hc hnew hx with
    ⟨-, c', hc', hjoins⟩ | ⟨-, cause, hgives⟩
  · exact absurd ⟨c', hrecord ▸ hc', by rw [hjoins]; rfl⟩ hout
  · have hleaves : (course.record i m.id).Abandons (course.Succeeds i) m.id c (course.record (i + 1) m.id)
        ({ c with upgradeSequence := m.counterpartySequence } : ChannelEnd).reopened
        (({ c with upgradeSequence := m.counterpartySequence } : ChannelEnd).receiptFor cause) := by
      rw [hrecord, hgives.self]
      exact .of_giveUp .kept
    exact ⟨_, _, hleaves, hle, UInt64.le_refl _, hstate, fun hclosed => (by cases hclosed), hturn⟩

theorem leaves_of_abandons (h : course.Regular) (hc : (course.record i id).channel = some c)
    (habandons : course.Abandons i id c n) : ∃ c' e, course.Leaves i id c n c' e := by
  cases habandons with
  | left hin hout hnot => exact leaves_of_left h hc hin hout hnot
  | declined hm hid hnew hout =>
    subst hid
    exact leaves_of_declined h hc hm hnew hout

/-- An end that abandons an attempt is as it was before it entered the attempt, but for a number, a receipt and
a packet that was settled. -/
theorem restored_of_abandons (h : course.Regular) (hc : (course.record i id).channel = some c)
    (habandons : course.Abandons i id c n) : ∃ c' e, course.Restored i id c n c' e := by
  obtain ⟨c', e, hleaves⟩ := leaves_of_abandons h hc habandons
  have hc' := hleaves.channel
  obtain ⟨hothers, hconnections⟩ := others_kept hleaves.turn
  refine ⟨c', e, hleaves.abandons, hleaves.receipt, ⟨fun hend => ?_, ?_⟩, ?_, ?_, hothers, hconnections⟩
  · obtain ⟨d, hd, hpasses⟩ := passes h hc
    obtain rfl := Option.some.inj (hd.symm.trans hc')
    exact hpasses.lapsed (hleaves.closed hend) hend
  · rintro ⟨hordered, m, k, hm, hlapses⟩
    obtain ⟨name, app, l', -, -, -, hx, hstore⟩ := hm.executed (standing h i)
    have hend := Message.closes_of_lapses hlapses hc hordered hx
    rw [record, hstore] at hc'
    obtain rfl := Option.some.inj (hend.symm.trans hc')
    rfl
  · intro m k hm hsettles
    obtain ⟨name, app, l', -, -, hv, hx, hstore⟩ := hm.executed (standing h i)
    obtain ⟨r, es, hw, -, -, herased⟩ := Message.settles hsettles (fits hm.1) hv hx
    rw [record, hstore, hw.self, herased]
    rfl
  · obtain ⟨k, c₀, hentered, hremote, hfields⟩ := entered h hc hleaves.state
    have hsame : c'.remote = c.remote ∧ c'.fields = c.fields := by
      rcases hleaves.abandons.outcome with hend | ⟨hend, -⟩ <;> subst hend <;> exact ⟨rfl, rfl⟩
    exact ⟨k, c₀, hentered, hsame.1.trans hremote, hsame.2.trans hfields⟩

/-- Each way out of an attempt has the end abandon it. -/
theorem abandons_of_wayOut (h : course.Regular) (hc : (course.record i id).channel = some c)
    (hway : course.WayOut i id c n) : course.Abandons i id c n := by
  obtain ⟨m, name, app, hm, hfind, hway⟩ := hway
  obtain ⟨name', app', l', hfind', -, hv, hx, hstore⟩ := hm.executed (standing h i)
  obtain ⟨rfl, rfl⟩ := Prod.mk.inj (Except.ok.inj (hfind.symm.trans hfind'))
  have hdrops : (course.chain i).store.Drops (course.chain (i + 1)).store id :=
    hstore ▸ Message.drops_of_wayOut (fits hm.1) hv hx hc hway
  obtain ⟨hout, hnot⟩ := drops_iff.1 hdrops
  have hleft (hin : c.state.isUpgrading = true) : course.Abandons i id c c.upgradeSequence :=
    .left hin hout hnot
  have hstored {u : Upgrade} (hu : (course.record i id).upgrade = some u) :
      course.Abandons i id c c.upgradeSequence :=
    hleft ((orderly h i id).isUpgrading_of_upgrade hc (by simp [hu]))
  cases hway with
  | declined hid hnew => exact .declined hm hid hnew hout
  | rejected hid hu => exact hstored hu
  | mismatched hid hu => exact hstored hu
  | cancelled hid =>
    subst hid
    obtain ⟨-, -, -, ⟨u, hu⟩, -⟩ := Message.UpgradeCancel.validate_eq_ok.1 hv
    exact hstored hu
  | expired hid =>
    subst hid
    obtain ⟨-, -, -, -, u, hu, -⟩ := Message.UpgradeExpire.validate_eq_ok.1 hv
    exact hstored hu
  | late hsettles hoverdue => exact hleft (by rw [hoverdue.1]; rfl)
  | lapsed hlapses hordered hin => exact hleft hin

/-- An end abandons an attempt in no other way. -/
theorem wayOut_of_abandons (h : course.Regular) (hc : (course.record i id).channel = some c)
    (habandons : course.Abandons i id c n) : ∃ n', course.WayOut i id c n' := by
  cases habandons with
  | left hin hout hnot =>
    have hdrops := drops_iff.2 ⟨hout, hnot⟩
    have hchanged : (course.record (i + 1) id).channel ≠ (course.record i id).channel :=
      fun hsame => hout ⟨c, hsame.trans hc, hin⟩
    obtain ⟨m, hm⟩ := succeeds_of_channel hchanged
    obtain ⟨name, app, l', hfind, happ, hv, hx, hstore⟩ := hm.executed (standing h i)
    rw [hstore] at hdrops
    obtain ⟨n', hway⟩ := Message.wayOut_of_drops happ (fits hm.1) (standing h i).named.namesAnew hv hx hc hin
      hdrops
    exact ⟨n', m, name, app, hm, hfind, hway⟩
  | @declined m hm hid hnew hout =>
    subst hid
    obtain ⟨name, app, l', hfind, -, hv, hx, hstore⟩ := hm.executed (standing h i)
    rcases Message.UpgradeTry.joins_or_gives_up (fits hm.1) hc hnew hx with
      ⟨-, c', hc', hjoins⟩ | ⟨hobjection, -⟩
    · refine absurd ⟨c', ?_, by rw [hjoins]; rfl⟩ hout
      rw [record, hstore]
      exact hc'
    · exact ⟨_, _, name, app, hm, hfind, .declined rfl hnew hobjection⟩

/-- An end that takes a way out of an attempt abandons it, and abandons none otherwise. It is then as it was
before it entered the attempt, but for a number, a receipt and a packet that was settled. -/
theorem restored_of_abandoned (h : course.Regular) (hc : (course.record i id).channel = some c) :
    (∀ n, course.WayOut i id c n → course.Abandons i id c n) ∧
    ∀ n, course.Abandons i id c n →
      (∃ n', course.WayOut i id c n') ∧ ∃ c' e, course.Restored i id c n c' e :=
  ⟨fun _ hway => abandons_of_wayOut h hc hway,
    fun _ habandons => ⟨wayOut_of_abandons h hc habandons, restored_of_abandons h hc habandons⟩⟩

end

/-! ## A packet that is settled too late -/

section
attribute [local instance] Digest.plain

open Sample (endId channel)

/-- The acknowledgement of the packet in flight. -/
def draggedAck : Message :=
  .acknowledge ⟨Sample.packet 1, successAck, Sample.proofAt 8 (.ack endId .one) successAck.commitment, ⟨0, 8⟩,
    Sample.signer⟩

/-- Chain `a` flushes, with a packet in flight that is acknowledged when the time for the upgrade is over. -/
def dragging : Course :=
  Sample.alone [6, 8] (Sample.opening .unordered 6 7 ++ [Step.mk .a (.send ⟨1⟩ (Sample.packet 1))] ++
    Sample.joining (channel .opened .unordered 0) Sample.second (Sample.within 60) 8 8 ++
    [⟨.a, .advanceTime (60 * 1000000000)⟩,
      Sample.gets .a draggedAck])

theorem dragging_facts : (∀ i, i < dragging.deeds.length →
      (dragging.chain i).store.channelCounter ≠ lastChannel) ∧
    (dragging.record 8 endId).channel = some (channel .flushing .unordered 1) ∧
    (dragging.record 9 endId).channel = some (channel .opened .unordered 2) ∧
    dragging.Succeeds 8 draggedAck ∧
    ((dragging.record 8 endId).counterpartyUpgrade.any fun w =>
      w.timeout.hasElapsed (dragging.chain 8).host.height (dragging.chain 8).host.time) = true := by
  decide +kernel

theorem dragging_wayOut : dragging.WayOut 8 endId (channel .flushing .unordered 1) 1 := by
  obtain ⟨hnumbering, -, -, hsucceeds, helapsed⟩ := dragging_facts
  obtain ⟨w, hw, helapsed⟩ := (Option.any_eq_true _ _).1 helapsed
  obtain ⟨name, app, l', hfind, -⟩ :=
    hsucceeds.executed (standing (Sample.regular_of_numbering hnumbering) 8)
  exact ⟨draggedAck, name, app, hsucceeds, hfind, .late (n := .one) rfl ⟨rfl, w, hw, helapsed⟩⟩

/-- The flushing end gives its attempt up as it settles the packet. -/
theorem restored_when_dragging : dragging.WayOut 8 endId (channel .flushing .unordered 1) 1 ∧
    ∃ c' e, dragging.Restored 8 endId (channel .flushing .unordered 1) 1 c' e :=
  have ⟨hnumbering, hc, _⟩ := dragging_facts
  have ⟨habandons, hrestored⟩ := restored_of_abandoned (Sample.regular_of_numbering hnumbering) hc
  ⟨dragging_wayOut, (hrestored 1 (habandons 1 dragging_wayOut)).2⟩

end

end Course

end ChannelLayer
