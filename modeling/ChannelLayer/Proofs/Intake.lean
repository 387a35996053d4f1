import ChannelLayer.Proofs.Posting

/-!
# What an end takes in

An ordered end hands packets to its application in sequence, as its counter says, and an unordered end hands
over no packet that it has a receipt of (`Turn.Intake`). A packet that was handed over is remembered for as
long as the ordering of the channel does not change (`Course.remembered`), so that a packet that comes again
changes nothing (`Course.receive_discipline`). Where the ordering changes, this may end: see
`ChannelLayer.Proofs.Reception`.
-/

set_option autoImplicit false

namespace ChannelLayer

/-- The packet that is handed to its application. -/
def Event.handed? : Event → Option Packet
  | .receivePacket p _ _ => some p
  | _ => none

namespace ChannelRecord

/-- The number of the packet that an ordered end waits for. The counter starts at one. -/
def awaited (r : ChannelRecord) : Nat := (r.nextReceive.getD .one).number.toNat

/-- An end counts what it receives only once it is joined. -/
def Listening (r : ChannelRecord) : Prop := r.nextReceive ≠ none → r.IsJoined

/-- An end with the ordering `o` remembers that it has handed over the packet `n`. -/
def HasTaken (r : ChannelRecord) (n : Sequence) : ChannelOrder → Prop
  | .ordered => ∃ next, r.nextReceive = some next ∧ n < next
  | .unordered => r.receipts.get? n = some .received
  | .unspecified => False

end ChannelRecord

/-! ## A packet that comes again -/

theorem Store.hasReceived_of_hasTaken {s : Store} {id : EndId} {n : Sequence} {o : ChannelOrder}
    (h : (s.record id).HasTaken n o) : s.hasReceived id o n = .ok true := by
  cases o with
  | unspecified => exact h.elim
  | unordered =>
    have hreceipt : (s.record id).receipts.get? n = some .received := h
    simp [Store.hasReceived, Store.receipt, hreceipt]
  | ordered =>
    obtain ⟨next, hnext, hlt⟩ := h
    simp [Store.hasReceived, hnext, hlt]

/-- A packet that the end has taken is passed over in silence. -/
theorem Message.Receive.execute_of_hasTaken [Digest] {m : Message.Receive} {s : Store} {app : App}
    {c : ChannelEnd} {l : Ledger} (hc : (s.record m.packet.destination).channel = some c)
    (htaken : (s.record m.packet.destination).HasTaken m.packet.sequence c.order)
    (hx : m.execute ⟨s, app⟩ = .ok () l) : l.store = s := by
  have hreceived := Store.hasReceived_of_hasTaken htaken
  simp [Message.Receive.execute, hc, hreceived, and_assoc] at hx
  rw [← hx]

/-! ## What a turn takes in -/

namespace Turn

/-- What a turn does to the counter of received packets. -/
inductive Intake (r r' : ChannelRecord) (es : List Event) : Prop
  | kept (hnone : es.filterMap Event.handed? = []) (hnext : r'.nextReceive = r.nextReceive)
  | opened (hnone : es.filterMap Event.handed? = []) (hnew : ¬r.IsJoined)
      (hnext : r'.nextReceive = some .one) (hjoined : r'.IsJoined)
  | handed {c : ChannelEnd} {p : Packet} {hop : ConnectionId} (hc : r.channel = some c)
      (hjoined : c.state.isJoined = true) (hhand : es = [.receivePacket p c.order hop])
      (hremembers : Remembers r r' p.sequence c.order)
  | resumed {c : ChannelEnd} {f : UpgradeFields} (hnone : es.filterMap Event.handed? = [])
      (hc : r.channel = some c) (hjoined : c.state.isJoined = true) (hold : c.order = .unordered)
      (hc' : r'.channel = some (c.upgraded f)) (hnew : f.order = .ordered)

section
variable [Digest] {v : View} {id : EndId} {r r' : ChannelRecord} {es : List Event}

theorem intake (h : Turn v id r r' es) : Intake r r' es := by
  have hcommit {c : ChannelEnd} {u w : Upgrade} (hc : r.channel = some c)
      (hjoined : c.state.isJoined = true) (hr' : r' = r.commit c u w)
      (hnone : es.filterMap Event.handed? = []) : Intake r r' es := by
    by_cases hresumes : c.order = .unordered ∧ u.fields.order = .ordered
    · have hc' : r'.channel = some (c.upgraded u.fields) := by rw [hr', ChannelRecord.channel_commit]
      exact .resumed hnone hc hjoined hresumes.1 hc' hresumes.2
    · refine .kept hnone ?_
      rw [hr', ChannelRecord.commit, ChannelRecord.resumeCounting, if_neg hresumes]
  cases h with
  | opened hc hstate hopen =>
    exact .opened rfl (ChannelRecord.not_isJoined_of_unopened hc hstate) rfl ⟨_, rfl, by rw [hopen]; rfl⟩
  | receivedUnordered hc hstate horder hdest hfrom hbefore hshown hfirst =>
    refine .handed hc (ChannelState.isJoined_of_receiving hstate) rfl ?_
    rw [horder]
    exact .receipt fun hreceived => hfirst (by rw [hreceived]; rfl)
  | receivedOrdered hc hstate horder hdest hfrom hbefore hshown hnext =>
    refine .handed hc (ChannelState.isJoined_of_receiving hstate) rfl ?_
    rw [horder]
    exact .counter hnext rfl
  | timedOut hc hto hflight hes =>
    refine .kept ?_ (ChannelRecord.nextReceive_close _)
    subst hes
    split <;> rfl
  | confirmedLast hc hto hstate => exact hcommit hc (by rw [hstate]; rfl) rfl rfl
  | committed hc hto hstate => exact hcommit hc (by rw [hstate]; rfl) rfl rfl
  | gaveUp hc hbase =>
    refine .kept rfl ?_
    rcases hbase with rfl | ⟨m, nextAck, rfl, -⟩ <;> rfl
  | _ => exact .kept rfl rfl

end

section
variable {r r' : ChannelRecord} {es : List Event} {c c' : ChannelEnd}

theorem Intake.listening (h : Intake r r' es) (hkept : r.IsJoined → r'.IsJoined) (hr : r.Listening) :
    r'.Listening := by
  intro hne
  cases h with
  | kept hnone hnext => exact hkept (hr (hnext ▸ hne))
  | opened hnone hnew hnext hjoined => exact hjoined
  | handed hc hjoined => exact hkept ⟨_, hc, hjoined⟩
  | resumed hnone hc hjoined => exact hkept ⟨_, hc, hjoined⟩

/-- While an end is ordered it hands over what it waits for, or it waits on. -/
theorem Intake.of_ordered (h : Intake r r' es) (hr : r.Listening) (hc : r.channel = some c)
    (horder : c.order = .ordered) :
    es.filterMap Event.handed? = [] ∧
        (r'.nextReceive = r.nextReceive ∨ r.nextReceive = none ∧ r'.nextReceive = some .one) ∨
      ∃ p, es.filterMap Event.handed? = [p] ∧ r.nextReceive = some p.sequence ∧
        r'.nextReceive = some p.sequence.next := by
  cases h with
  | kept hnone hnext => exact .inl ⟨hnone, .inl hnext⟩
  | opened hnone hnew hnext =>
    exact .inl ⟨hnone, .inr ⟨Decidable.byContradiction fun hne => hnew (hr hne), hnext⟩⟩
  | handed hd hjoined hhand hremembers =>
    obtain rfl := Option.some.inj (hc.symm.trans hd)
    rw [horder] at hremembers
    obtain ⟨hnext, hnext'⟩ := hremembers.counter_of_ordered
    exact .inr ⟨_, by rw [hhand]; rfl, hnext, hnext'⟩
  | resumed hnone hd hjoined hold =>
    obtain rfl := Option.some.inj (hc.symm.trans hd)
    rw [horder] at hold
    cases hold

/-- While an end is unordered it hands over what it has no receipt of. -/
theorem Intake.of_unordered (h : Intake r r' es) (hc : r.channel = some c)
    (horder : c.order = .unordered) :
    es.filterMap Event.handed? = [] ∨ ∃ p hop, es = [.receivePacket p .unordered hop] ∧
      r.receipts.get? p.sequence ≠ some .received := by
  cases h with
  | kept hnone => exact .inl hnone
  | opened hnone => exact .inl hnone
  | handed hd hjoined hhand hremembers =>
    obtain rfl := Option.some.inj (hc.symm.trans hd)
    rw [horder] at hhand hremembers
    exact .inr ⟨_, _, hhand, hremembers.receipt_of_unordered⟩
  | resumed hnone => exact .inl hnone

end

end Turn

/-! ## Over a stretch of a course -/

namespace Course

section
variable [Digest] (course : Course) (i n : Nat) (id : EndId)

/-- The packets that the end `id` hands to its application in deed `i`. -/
def hands : List Packet := (course.happens i id).filterMap Event.handed?

/-- The packets that the end `id` hands to its application in the `n` deeds from `i` on, in order. -/
def handed : List Packet := (List.range' i n).flatMap fun k => course.hands k id

/-- Before, within and after the `n` deeds from `i` on the end `id` has the ordering `o`. -/
def Keeps (o : ChannelOrder) : Prop :=
  ∀ k, k ≤ n → (course.record (i + k) id).channel.map ChannelEnd.order = some o

instance (o : ChannelOrder) : Decidable (course.Keeps i n id o) :=
  inferInstanceAs (Decidable (∀ k, k ≤ n → _))

end

section
variable [Digest] {course : Course} {i n : Nat} {id : EndId} {o : ChannelOrder}

theorem Keeps.channel (h : course.Keeps i n id o) {k : Nat} (hk : k ≤ n) :
    ∃ c, (course.record (i + k) id).channel = some c ∧ c.order = o :=
  Option.map_eq_some_iff.1 (h k hk)

theorem Keeps.of_succ (h : course.Keeps i (n + 1) id o) : course.Keeps i n id o :=
  fun k hk => h k (Nat.le_succ_of_le hk)

theorem handed_succ : course.handed i (n + 1) id = course.handed i n id ++ course.hands (i + n) id := by
  simp [handed, List.range'_1_concat]

/-- Nothing is reported about any end where one loses its owner. -/
theorem happens_of_release {handle : Capability} {id' : EndId}
    (hdeed : course.deeds[i]? = some (.release handle id')) : course.happens i id = [] := by
  have hsucc : course.chain (i + 1) = (course.chain i).release handle id' := chain_succ hdeed
  rw [happens, Store.news, hsucc]
  rcases (course.chain i).store_release handle id' with hstore | hstore <;>
    simp [hstore, Store.update]

/-- In each deed each end takes one turn, unless it loses its owner and nothing is reported. -/
theorem turn_or_released (h : course.Standing i) (id : EndId) :
    Turn (course.view i) id (course.record i id) (course.record (i + 1) id) (course.happens i id) ∨
      course.record (i + 1) id = { course.record i id with capability := none } ∧
        course.happens i id = [] := by
  rcases turn_happens h id with hturn | hreleased
  · exact .inl hturn
  · rcases store_succ h with hstore | ⟨id', hturn⟩ | ⟨handle, id', hdeed⟩
    · exact .inr ⟨hreleased, by simp [happens, Store.news, hstore]⟩
    · exact .inl (hturn.turn id)
    · exact .inr ⟨hreleased, happens_of_release hdeed⟩

theorem intake (h : course.Standing i) (id : EndId) :
    Turn.Intake (course.record i id) (course.record (i + 1) id) (course.happens i id) := by
  rcases turn_or_released h id with hturn | ⟨hreleased, hnone⟩
  · exact hturn.intake
  · rw [hreleased, hnone]
    exact .kept rfl rfl

theorem received_succ (h : course.Standing i) (id : EndId) {k : Sequence} :
    (course.record (i + 1) id).receipts.get? k = some .received ↔
      (course.record i id).receipts.get? k = some .received ∨
        ∃ p hop, Event.receivePacket p .unordered hop ∈ course.happens i id ∧ p.sequence = k := by
  rcases turn_or_released h id with hturn | ⟨hreleased, hnone⟩
  · exact hturn.received_iff
  · rw [hreleased, hnone]
    simp

theorem listening (h : course.Regular) (i : Nat) (id : EndId) : (course.record i id).Listening := by
  refine record_induction h i id ?_ (fun j hj r' es hturn hr => hturn.intake.listening hturn.isJoined hr)
    fun r hr => hr
  intro hne
  exact absurd rfl hne

/-! ## What is remembered -/

section
variable {c : ChannelEnd} (h : course.Regular) (hc : (course.record i id).channel = some c)
  (hbelow : (course.record i id).nextReceive ≠ some .last)

include h hc hbelow

/-- What an end has taken it remembers through every deed, as the ordering that it has before the deed asks. -/
theorem hasTaken_succ {k : Sequence} (htaken : (course.record i id).HasTaken k c.order) :
    (course.record (i + 1) id).HasTaken k c.order := by
  cases horder : c.order with
  | unspecified => exact absurd horder (specified h i id |>.channel c hc)
  | unordered =>
    rw [horder] at htaken
    exact (received_succ (standing h i) id).2 (.inl htaken)
  | ordered =>
    rw [horder] at htaken
    obtain ⟨next, hcounter, hlt⟩ := htaken
    rcases (intake (standing h i) id).of_ordered (listening h i id) hc horder with
      ⟨-, hsame | ⟨hfresh, -⟩⟩ | ⟨p, -, hnext, hnext'⟩
    · exact ⟨next, hsame.trans hcounter, hlt⟩
    · rw [hfresh] at hcounter
      cases hcounter
    · obtain rfl := Option.some.inj (hnext.symm.trans hcounter)
      have hstep : p.sequence < p.sequence.next := Sequence.lt_next fun heq => hbelow (heq ▸ hnext)
      exact ⟨_, hnext', Sequence.lt_trans hlt hstep⟩

/-- What an end hands over it has taken. -/
theorem hasTaken_of_hands {p : Packet} (hp : p ∈ course.hands i id) :
    (course.record (i + 1) id).HasTaken p.sequence c.order := by
  rw [hands] at hp
  cases horder : c.order with
  | unspecified => exact absurd horder (specified h i id |>.channel c hc)
  | unordered =>
    rcases (intake (standing h i) id).of_unordered hc horder with hnone | ⟨p', hop, hhand, -⟩
    · rw [hnone] at hp
      cases hp
    · rw [hhand] at hp
      obtain rfl : p = p' := List.mem_singleton.1 hp
      have hnow : Event.receivePacket p .unordered hop ∈ course.happens i id := by
        rw [hhand]
        exact List.mem_singleton.2 rfl
      exact (received_succ (standing h i) id).2 (.inr ⟨p, hop, hnow, rfl⟩)
  | ordered =>
    rcases (intake (standing h i) id).of_ordered (listening h i id) hc horder with
      ⟨hnone, -⟩ | ⟨p', hhand, hnext, hnext'⟩
    · rw [hnone] at hp
      cases hp
    · rw [hhand] at hp
      obtain rfl := List.mem_singleton.1 hp
      exact ⟨_, hnext', Sequence.lt_next fun heq => hbelow (heq ▸ hnext)⟩

end

section
variable (h : course.Regular) (hkeeps : course.Keeps i n id o)
  (hbelow : ∀ k, k < n → (course.record (i + k) id).nextReceive ≠ some .last)

include h hkeeps hbelow

/-- An end that keeps its ordering remembers all that it has handed over. -/
theorem remembered {p : Packet} (hp : p ∈ course.handed i n id) :
    (course.record (i + n) id).HasTaken p.sequence o := by
  induction n with
  | zero => cases hp
  | succ n ih =>
    have hbefore := ih hkeeps.of_succ fun k hk => hbelow k (Nat.lt_succ_of_lt hk)
    obtain ⟨c, hc, rfl⟩ := hkeeps.channel (Nat.le_succ n)
    have hnow := hbelow n (Nat.lt_succ_self n)
    rw [handed_succ, List.mem_append] at hp
    rcases hp with hp | hp
    · exact hasTaken_succ h hc hnow (hbefore hp)
    · exact hasTaken_of_hands h hc hnow hp

/-- A packet that comes again while the ordering is kept changes nothing in the store, whether it is accepted
or not. -/
theorem store_of_handed {m : Message.Receive} (hid : m.packet.destination = id)
    (hdeed : course.deeds[i + n]? = some (.deliver (.receive m)))
    (hhanded : ∃ p ∈ course.handed i n id, p.sequence = m.packet.sequence) :
    (course.chain (i + n + 1)).store = (course.chain (i + n)).store := by
  obtain ⟨p, hp, hseq⟩ := hhanded
  have htaken := remembered h hkeeps hbelow hp
  obtain ⟨c, hc, rfl⟩ := hkeeps.channel (Nat.le_refl n)
  rw [chain_succ hdeed, Chain.undergo]
  by_cases htakes : (course.chain (i + n)).takes (.receive m) = true
  · obtain ⟨_, app, l', -, -, hx, hafter⟩ := Chain.after_of_takes htakes
    subst hid
    rw [hseq] at htaken
    rw [hafter]
    exact Message.Receive.execute_of_hasTaken hc htaken hx
  · exact Chain.store_of_not_takes htakes

end

/-- An unordered end hands no packet over twice. -/
theorem handed_nodup (h : course.Regular) (hkeeps : course.Keeps i n id .unordered)
    (hbelow : ∀ k, k < n → (course.record (i + k) id).nextReceive ≠ some .last) :
    ((course.handed i n id).map (·.sequence)).Nodup := by
  induction n with
  | zero => exact List.nodup_nil
  | succ n ih =>
    have hbelow' : ∀ k, k < n → (course.record (i + k) id).nextReceive ≠ some .last :=
      fun k hk => hbelow k (Nat.lt_succ_of_lt hk)
    have hbefore := ih hkeeps.of_succ hbelow'
    obtain ⟨c, hc, horder⟩ := hkeeps.channel (Nat.le_succ n)
    rw [handed_succ, hands]
    rcases (intake (standing h (i + n)) id).of_unordered hc horder with hnone | ⟨p, hop, hhand, hfirst⟩
    · rw [hnone, List.append_nil]
      exact hbefore
    · rw [hhand, List.map_append]
      have hone : ([p].map (·.sequence)).Nodup := List.nodup_cons.2 ⟨List.not_mem_nil, List.nodup_nil⟩
      refine List.nodup_append.2 ⟨hbefore, hone, fun k hk l hl heq => ?_⟩
      obtain ⟨q, hq, rfl⟩ := List.mem_map.1 hk
      obtain rfl : l = p.sequence := List.mem_singleton.1 hl
      exact hfirst (heq ▸ remembered h hkeeps.of_succ hbelow' hq)

/-- An ordered end hands packets over one after the other, and its counter goes along. -/
theorem handed_consecutive (h : course.Regular) (hkeeps : course.Keeps i n id .ordered)
    (hbelow : ∀ k, k < n → (course.record (i + k) id).nextReceive ≠ some .last) :
    (course.handed i n id).map (·.sequence.number.toNat) =
        List.range' (course.record i id).awaited (course.handed i n id).length ∧
      (course.record (i + n) id).awaited =
        (course.record i id).awaited + (course.handed i n id).length := by
  induction n with
  | zero => exact ⟨rfl, rfl⟩
  | succ n ih =>
    obtain ⟨hlist, hcounter⟩ := ih hkeeps.of_succ fun k hk => hbelow k (Nat.lt_succ_of_lt hk)
    obtain ⟨c, hc, horder⟩ := hkeeps.channel (Nat.le_succ n)
    rw [handed_succ, hands]
    rcases (intake (standing h (i + n)) id).of_ordered (listening h (i + n) id) hc horder with
      ⟨hnone, hnext⟩ | ⟨p, hhand, hnext, hnext'⟩
    · have hsame : (course.record (i + n + 1) id).awaited = (course.record (i + n) id).awaited := by
        rcases hnext with hsame | ⟨hfresh, hone⟩
        · rw [ChannelRecord.awaited, hsame, ChannelRecord.awaited]
        · rw [ChannelRecord.awaited, ChannelRecord.awaited, hfresh, hone]
          rfl
      rw [hnone, List.append_nil]
      exact ⟨hlist, hsame.trans hcounter⟩
    · have hnow : (course.record (i + n) id).awaited = p.sequence.number.toNat := by
        rw [ChannelRecord.awaited, hnext]
        rfl
      have hthen : (course.record (i + n + 1) id).awaited = p.sequence.number.toNat + 1 := by
        rw [ChannelRecord.awaited, hnext']
        exact Sequence.toNat_next fun heq => hbelow n (Nat.lt_succ_self n) (heq ▸ hnext)
      rw [hhand, List.map_append, hlist, List.length_append, List.length_singleton, List.range'_1_concat,
        ← hcounter, hnow]
      refine ⟨rfl, ?_⟩
      show (course.record (i + n + 1) id).awaited = _
      rw [hthen, ← Nat.add_assoc, ← hcounter, hnow]

/-- While the ordering of an end does not change, an ordered end hands over consecutive packets, an unordered
end no packet twice, and a packet that comes again changes nothing. -/
theorem receive_discipline (h : course.Regular) (hkeeps : course.Keeps i n id o)
    (hbelow : ∀ k, k < n → (course.record (i + k) id).nextReceive ≠ some .last) :
    (o = .ordered →
      (course.handed i n id).map (·.sequence.number.toNat) =
          List.range' (course.record i id).awaited (course.handed i n id).length ∧
        (course.record (i + n) id).awaited =
          (course.record i id).awaited + (course.handed i n id).length) ∧
    (o = .unordered → ((course.handed i n id).map (·.sequence)).Nodup) ∧
    ∀ m : Message.Receive, m.packet.destination = id →
      course.deeds[i + n]? = some (.deliver (.receive m)) →
      (∃ p ∈ course.handed i n id, p.sequence = m.packet.sequence) →
      (course.chain (i + n + 1)).store = (course.chain (i + n)).store := by
  refine ⟨?_, ?_, fun m hid hdeed => store_of_handed h hkeeps hbelow hid hdeed⟩
  · rintro rfl
    exact handed_consecutive h hkeeps hbelow
  · rintro rfl
    exact handed_nodup h hkeeps hbelow

end

/-! ## A packet that is delivered twice -/

section
attribute [local instance] Digest.plain

open Sample (endId packet)

/-- The packet 1, on the proof at block 6. -/
def taken : Message.Receive :=
  ⟨packet 1, Sample.proofAt 6 (.commitment endId .one) (packet 1).commitment, ⟨0, 6⟩, Sample.signer⟩

/-- Chain `a` opens an ordered channel and receives the packet twice. -/
def takingTwice : Course :=
  Sample.alone [6] (Sample.opening .ordered 6 7 ++
    [Sample.gets .a (.receive taken), Sample.gets .a (.receive taken)])

theorem takingTwice_facts : (∀ i, i < takingTwice.deeds.length →
      (takingTwice.chain i).store.channelCounter ≠ lastChannel) ∧
    takingTwice.Keeps 2 2 endId .ordered ∧
    (∀ k, k < 2 → (takingTwice.record (2 + k) endId).nextReceive ≠ some .last) ∧
    takingTwice.handed 2 2 endId = [packet 1] ∧ takingTwice.Succeeds 4 (.receive taken) := by
  decide +kernel

theorem takingTwice_regular : takingTwice.Regular := Sample.regular_of_numbering takingTwice_facts.1

/-- The packet is accepted once more, and nothing comes of it. -/
theorem discipline_when_taking_twice : takingTwice.Succeeds 4 (.receive taken) ∧
    (takingTwice.record 4 endId).awaited = (takingTwice.record 2 endId).awaited + 1 ∧
    (takingTwice.chain 5).store = (takingTwice.chain 4).store := by
  obtain ⟨-, hkeeps, hbelow, hhanded, hsucceeds⟩ := takingTwice_facts
  obtain ⟨hordered, -, hagain⟩ := receive_discipline takingTwice_regular hkeeps hbelow
  refine ⟨hsucceeds, ?_, hagain taken rfl hsucceeds.1 ⟨packet 1, ?_, rfl⟩⟩
  · have hcounter := (hordered rfl).2
    rw [hhanded] at hcounter
    exact hcounter
  · rw [hhanded]
    exact List.mem_singleton.2 rfl

end

end Course

end ChannelLayer
