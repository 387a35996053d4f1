import ChannelLayer.Proofs.Expiry
import ChannelLayer.Proofs.Pairing
import ChannelLayer.Proofs.Reception

/-!
# A packet that lapses is not received

The sending chain gives a packet up on a proof of the past, while the receiving chain may still act later.
What rules out that both happen is that the two look at one clock: a packet that was not there at the height
of the proof can only be received from then on, at that height or a later one, and by then it is too late, or
the channel is closed for good (`Run.not_handed_from`). A receiver that had taken it before would have kept a
receipt or counted past it (`Run.not_handed_before`). The counter does not stop, for every packet that is
taken has a block of its own, and there are fewer blocks than sequences (`Run.nextReceive_le_block`).
-/

set_option autoImplicit false

namespace ChannelLayer

/-- The packet that the message is about. -/
def Message.packet? : Message → Option Packet
  | .receive m => some m.packet
  | .acknowledge m => some m.packet
  | .timeout m => some m.packet
  | .timeoutOnClose m => some m.packet
  | _ => none

/-- The packet that the message gives up. -/
def Message.timesOut? : Message → Option Packet
  | .timeout m => some m.packet
  | .timeoutOnClose m => some m.packet
  | _ => none

def Action.packet? : Action → Option Packet
  | .deliver m => m.packet?
  | .send _ p => some p
  | _ => none

/-- The end whose upgrade the action is for. -/
def Action.upgrades? : Action → Option EndId
  | .deliver m => m.upgrades?
  | _ => none

/-! ## Turns of an end that is not upgraded -/

namespace Turn

variable [Digest] {v : View} {id : EndId} {r r' : ChannelRecord} {es : List Event}

/-- An end gets into an attempt only where it is to be upgraded. -/
theorem enters (h : Turn v id r r' es) {c' : ChannelEnd} (hc' : r'.channel = some c')
    (hstate' : c'.state.isUpgrading = true) :
    (∃ c, r.channel = some c ∧ c.state.isUpgrading = true) ∨ v.upgrading id := by
  cases h with
  | created hnew hinit =>
    obtain rfl := Option.some.inj hc'
    rcases hinit with ⟨h, -⟩ | ⟨h, -⟩ <;> rw [h] at hstate' <;> cases hstate'
  | opened hc hinit hopen =>
    obtain rfl := Option.some.inj hc'
    rw [hopen] at hstate'
    cases hstate'
  | closed => cases hc'; cases hstate'
  | flushed hc hstate => exact .inl ⟨_, hc, by rw [hstate]; rfl⟩
  | timedOut => rw [ChannelRecord.channel_close] at hc'; cases hc'; cases hstate'
  | proposed hc hopen hnew hhops hdeadline horder hasked => exact .inr hasked
  | answered hc hto hguard hend hupgrade hhops hface hdeadline htime hnext horder hasked =>
    exact .inr hasked
  | acked hc hto hstate => exact .inl ⟨_, hc, by rw [hstate]; rfl⟩
  | confirmed hc hto hstate => exact .inl ⟨_, hc, by rw [hstate]; rfl⟩
  | confirmedLast => cases hc'; cases hstate'
  | committed => cases hc'; cases hstate'
  | gaveUp => cases hc'; cases hstate'
  | _ => exact .inl ⟨c', hc', hstate'⟩

/-- Without an upgrade to commit, an end keeps its ordering. -/
theorem order_kept (h : Turn v id r r' es) {c : ChannelEnd} (hc : r.channel = some c)
    (hnone : r.upgrade = none) : ∃ c', r'.channel = some c' ∧ c'.order = c.order := by
  have hsame {d : ChannelEnd} (hd : r.channel = some d) : d = c :=
    Option.some.inj (hd.symm.trans hc)
  cases h with
  | created hnew => rw [hc] at hnew; cases hnew
  | opened hd hinit hopen horder => obtain rfl := hsame hd; exact ⟨_, rfl, horder⟩
  | closed hd => obtain rfl := hsame hd; exact ⟨_, rfl, rfl⟩
  | flushed hd => obtain rfl := hsame hd; exact ⟨_, rfl, rfl⟩
  | timedOut hd => obtain rfl := hsame hd; exact ⟨_, ChannelRecord.channel_close _, rfl⟩
  | proposed hd => obtain rfl := hsame hd; exact ⟨_, rfl, rfl⟩
  | answered hd => obtain rfl := hsame hd; exact ⟨_, rfl, rfl⟩
  | acked hd hto hstate hu => rw [hnone] at hu; cases hu
  | confirmed hd hto hstate hu => rw [hnone] at hu; cases hu
  | confirmedLast hd hto hstate hu => rw [hnone] at hu; cases hu
  | committed hd hto hstate hu => rw [hnone] at hu; cases hu
  | gaveUp hd => obtain rfl := hsame hd; exact ⟨_, rfl, rfl⟩
  | _ => exact ⟨c, hc, rfl⟩

/-! ## Counting what is received -/

/-- What a turn of an end that is not upgraded does to the counter of the packets that it takes. -/
inductive Receives (v : View) (r r' : ChannelRecord) : Prop
  | kept (hnext : r'.nextReceive = r.nextReceive) : Receives v r r'
  | opened (hnew : ¬r.IsJoined) (hnext : r'.nextReceive = some .one) (hchanged : r'.channel ≠ r.channel) :
      Receives v r r'
  | taken {p : Packet} (hasked : v.receiving p) (hnext : r.nextReceive = some p.sequence)
      (hnext' : r'.nextReceive = some p.sequence.next) : Receives v r r'

theorem receives (h : Turn v id r r' es) (hnone : r.upgrade = none) : Receives v r r' := by
  cases h with
  | opened hc hinit hopen =>
    refine .opened (ChannelRecord.not_isJoined_of_unopened hc hinit) rfl ?_
    intro hsame
    obtain rfl := Option.some.inj (hsame.trans hc)
    rcases hinit with h | ⟨h, -⟩ <;> rw [hopen] at h <;> cases h
  | receivedOrdered hc hstate horder hdest hfrom hbefore hshown hnext hintime hasked =>
    exact .taken hasked hnext rfl
  | timedOut => exact .kept (ChannelRecord.nextReceive_close _)
  | confirmedLast hc hto hstate hu => rw [hnone] at hu; cases hu
  | committed hc hto hstate hu => rw [hnone] at hu; cases hu
  | gaveUp hc hbase => rcases hbase with rfl | ⟨n, nextAck, rfl, -⟩ <;> exact .kept rfl
  | _ => exact .kept rfl

/-- A packet that is handed over was asked for in time, on a channel that is not closed. -/
theorem hand_in_time (h : Turn v id r r' es) {p : Packet} {order : ChannelOrder} {hop : ConnectionId}
    (hhand : .receivePacket p order hop ∈ es) : (∃ c, r.channel = some c ∧ c.state ≠ .closed) ∧
      p.timedOut v.host.height v.host.time = false ∧ v.receiving p := by
  have hopen {c : ChannelEnd} (hstate : c.state ∈ receivingStates) : c.state ≠ .closed := by
    intro hclosed
    rw [hclosed] at hstate
    simp [receivingStates] at hstate
  cases h with
  | receivedUnordered hc hstate horder hdest hfrom hbefore hshown hfirst hintime hasked =>
    simp only [List.mem_singleton, Event.receivePacket.injEq] at hhand
    obtain ⟨rfl, -⟩ := hhand
    exact ⟨⟨_, hc, hopen hstate⟩, hintime, hasked⟩
  | receivedOrdered hc hstate horder hdest hfrom hbefore hshown hnext hintime hasked =>
    simp only [List.mem_singleton, Event.receivePacket.injEq] at hhand
    obtain ⟨rfl, -⟩ := hhand
    exact ⟨⟨_, hc, hopen hstate⟩, hintime, hasked⟩
  | timedOut hc hto hflight hes =>
    subst hes
    split at hhand <;> simp at hhand
  | refused => simp at hhand
  | confirmedLast => simp at hhand
  | committed => simp at hhand
  | gaveUp => simp at hhand
  | _ => cases hhand

end Turn

/-! ## Runs without an upgrade -/

namespace Run

section
variable [Digest] (run : Run)

/-- No message succeeds that is for the upgrade of the end `id`. -/
def Unupgraded (x : Side) (id : EndId) : Prop :=
  ∀ i m, m.upgrades? = some id → ¬run.Succeeds x i m

/-- In step `i` the packet `p` is given up on chain `x`. -/
def TimesOut (x : Side) (i : Nat) (p : Packet) : Prop :=
  ∃ m, run.Succeeds x i m ∧ m.timesOut? = some p

omit [Digest] in
/-- The packets that the run is about. -/
def packets : List Packet := run.steps.filterMap fun s => s.action.packet?

omit [Digest] in
/-- No packet was due before any chain began, which is written as if it had all the time. -/
def PlainPackets : Prop := ∀ p ∈ run.packets, ¬p.DueAtOnce

instance : Decidable run.PlainPackets := inferInstanceAs (Decidable (∀ p ∈ run.packets, ¬p.DueAtOnce))

/-- The hash tells apart what the packets of the run are committed to by. -/
def TellsApart : Prop :=
  ∀ p ∈ run.packets, ∀ q ∈ run.packets, p.commitment = q.commitment →
    p.commitmentInput = q.commitmentInput

instance : Decidable run.TellsApart :=
  inferInstanceAs (Decidable (∀ p ∈ run.packets, ∀ q ∈ run.packets, _ → _))

/-- At world `j` the end `id` could be shown not to have taken the packet `n`, by a receipt or by a counter
as the channel is ordered. -/
inductive Untaken (x : Side) (j : Nat) (id : EndId) (n : Sequence) : ChannelOrder → Prop
  | receipt (hnone : (run.record x j id).receipts.get? n ≠ some .received) : Untaken x j id n .unordered
  | counter {next : Sequence} (hnext : (run.record x j id).nextReceive = some next) (hle : ¬n < next) :
      Untaken x j id n .ordered

/-- At a world of the height of world `j` the packet `p` was late or the end that it is for was closed. -/
inductive TooLate (x : Side) (j : Nat) (p : Packet) : Prop
  | late {l : Nat} (hheight : (run.host x l).height = (run.host x j).height)
      (hlate : p.timedOut (run.host x l).height (run.host x l).time = true) : TooLate x j p
  | closed {l : Nat} {d : ChannelEnd} (hheight : (run.host x l).height = (run.host x j).height)
      (hd : (run.record x l p.destination).channel = some d) (hclosed : d.state = .closed) :
      TooLate x j p

/-- What chain `x.other` has been shown of the packet `p` that it gives up: at one height the packet was
untaken and too late to be taken. -/
structure Lapsed (x : Side) (p : Packet) (j : Nat) (order : ChannelOrder) : Prop where
  untaken : run.Untaken x j p.destination p.sequence order
  late : run.TooLate x j p
  ordering : ∃ l d, (run.record x l p.destination).channel = some d ∧ d.order = order

end

section
variable [Digest] {run : Run} {x : Side} {i j k : Nat} {id remote : EndId} {c d : ChannelEnd} {n : Sequence}
  {p q : Packet}

omit [Digest] in
theorem mem_packets {s : Step} (hstep : run.steps[i]? = some s) (hp : s.action.packet? = some p) :
    p ∈ run.packets := by
  unfold packets
  exact List.mem_filterMap.2 ⟨s, List.mem_of_getElem? hstep, hp⟩

/-- No message for the upgrade of the end is delivered at all. -/
theorem unupgraded_of_steps (h : ∀ s ∈ run.steps, s.action.upgrades? ≠ some id) :
    run.Unupgraded x id := by
  intro i m hm hsucceeds
  exact h _ (List.mem_of_getElem? hsucceeds.1) hm

section
variable (h : run.Honest)

include h

theorem block_le (hclimb : run.Climbs x) (hji : j ≤ i) :
    (run.host x j).height.block.toNat ≤ (run.host x i).height.block.toNat := by
  induction hji with
  | refl => exact Nat.le_refl _
  | @step i _ ih =>
    obtain ⟨hheight | hheight, -⟩ := host_succ (standing h x i).applications
    · rw [hheight]
      exact ih
    · rw [hheight, Height.toNat_block_next (hclimb i)]
      exact Nat.le_succ_of_le ih

/-- An end that is closed stays so. -/
theorem stays_closed (hji : j ≤ i) (hc : (run.record x j id).channel = some c)
    (hclosed : c.state = .closed) : ∃ d, (run.record x i id).channel = some d ∧ d.state = .closed := by
  induction hji with
  | refl => exact ⟨c, hc, hclosed⟩
  | @step i _ ih =>
    obtain ⟨d, hd, hdclosed⟩ := ih
    exact (turn h x i id).of_closed (orderly h x i id) hd hdclosed

/-! ### The ordering of an end -/

section
variable (hplain : run.Unupgraded x id)

include hplain

/-- An end that is not upgraded is never in an attempt. -/
theorem not_upgrading (i : Nat) (hc : (run.record x i id).channel = some c) :
    c.state.isUpgrading = false := by
  rw [← Bool.not_eq_true]
  induction i generalizing c with
  | zero =>
    rw [record_zero h] at hc
    cases hc
  | succ i ih =>
    intro hstate
    rcases (turn h x i id).enters hc hstate with ⟨c₀, hc₀, hstate₀⟩ | ⟨m, hdelivered, hm⟩
    · exact ih hc₀ hstate₀
    · -- The message that brought it there has changed the end, so it has succeeded.
      have hsucceeds : run.Succeeds x i m := by
        apply succeeds_of_changed hdelivered
        intro hsame
        have hc₀ : (run.record x i id).channel = some c := by
          rw [record, ← hsame]
          exact hc
        exact ih hc₀ hstate
      exact hplain i m hm hsucceeds

theorem upgrade_none (i : Nat) : (run.record x i id).upgrade = none := by
  have hr := orderly h x i id
  cases hc : (run.record x i id).channel with
  | none => exact (hr.unborn hc).1
  | some c =>
    refine Decidable.byContradiction fun hupgrade => ?_
    have hstate := hr.isUpgrading_of_upgrade hc hupgrade
    rw [not_upgrading h hplain i hc] at hstate
    cases hstate

theorem order_kept (hji : j ≤ i) (hc : (run.record x j id).channel = some c) :
    ∃ d, (run.record x i id).channel = some d ∧ d.order = c.order := by
  induction hji with
  | refl => exact ⟨c, hc, rfl⟩
  | @step i _ ih =>
    obtain ⟨d, hd, horder⟩ := ih
    obtain ⟨d', hd', horder'⟩ := (turn h x i id).order_kept hd (upgrade_none h hplain i)
    exact ⟨d', hd', horder'.trans horder⟩

/-- An end that is not upgraded has one ordering for good. -/
theorem order_eq (hc : (run.record x i id).channel = some c) (hd : (run.record x j id).channel = some d) :
    d.order = c.order := by
  rcases Nat.le_total j i with hji | hij
  · obtain ⟨c', hc', horder⟩ := order_kept h hplain hji hd
    obtain rfl := Option.some.inj (hc.symm.trans hc')
    exact horder.symm
  · obtain ⟨d', hd', horder⟩ := order_kept h hplain hij hc
    obtain rfl := Option.some.inj (hd.symm.trans hd')
    exact horder

/-- An end that is joined has seen the end that it is joined to, with its own ordering. -/
theorem introduced (hc : (run.record x i id).channel = some c) (hjoined : c.state.isJoined = true)
    (hto : c.remote = .ofEnd remote) :
    ∃ l d, (run.record x.other l remote).channel = some d ∧ d.order = c.order := by
  obtain ⟨l, k, c₀, remote', d, -, hki, hc₀, hjoined₀, hto₀, hfacing, -⟩ := meets h ⟨c, hc, hjoined⟩
  obtain ⟨c', hc', -, hto', hfields⟩ := stays_joined h hki hc₀ hjoined₀
  obtain rfl := Option.some.inj (hc.symm.trans hc')
  obtain rfl := Counterparty.ofEnd_inj (hto.symm.trans (hto'.trans hto₀))
  refine ⟨l, d, hfacing.there, ?_⟩
  rcases hfields with hfields | ⟨k', -, -, -, -, -, u, hu, -⟩
  · exact hfacing.agree.order.symm.trans (congrArg UpgradeFields.order hfields).symm
  · rw [upgrade_none h hplain k'] at hu
    cases hu

/-! ### The counter of an end -/

/-- Every packet that an ordered end takes has a block of its own. -/
theorem nextReceive_le_block (hclimb : run.Climbs x) (i : Nat)
    (hnext : (run.record x i id).nextReceive = some n) :
    n.number.toNat ≤ (run.host x i).height.block.toNat := by
  induction i generalizing n with
  | zero =>
    rw [record_zero h] at hnext
    cases hnext
  | succ i ih =>
    have hblock := block_le h hclimb (Nat.le_succ i)
    cases (turn h x i id).receives (upgrade_none h hplain i) with
    | kept hsame =>
      rw [hsame] at hnext
      exact Nat.le_trans (ih hnext) hblock
    | opened hnew hone hchanged =>
      obtain rfl := Option.some.inj (hnext.symm.trans hone)
      rcases store_succ h (standing h x i) with hstore | ⟨-, -, hheight | hsame⟩
      · refine absurd ?_ hchanged
        rw [record, record, hstore]
      · rw [hheight, Height.toNat_block_next (hclimb i)]
        exact Nat.le_add_left 1 _
      · exact absurd (hsame id).1 hchanged
    | @taken p hasked hcounter hcounter' =>
      obtain rfl := Option.some.inj (hnext.symm.trans hcounter')
      by_cases hlast : p.sequence = .last
      · rw [hlast] at hcounter ⊢
        rw [Sequence.next_last]
        exact Nat.le_trans (ih hcounter) hblock
      · -- The counter has moved, so a block was sealed.
        obtain ⟨m, hdelivered, -⟩ := hasked
        have hsucceeds : run.Succeeds x i (.receive m) := by
          apply succeeds_of_changed hdelivered
          intro hsame
          have hnext' : (run.record x i id).nextReceive = some p.sequence.next := by
            rw [record, ← hsame]
            exact hcounter'
          have heq := Option.some.inj (hcounter.symm.trans hnext')
          have hlt := Sequence.lt_next hlast
          rw [← heq] at hlt
          exact Sequence.lt_irrefl _ hlt
        obtain ⟨-, -, -, -, -, -, -, hheight⟩ := hsucceeds.executed
        rw [hheight, Height.toNat_block_next (hclimb i), Sequence.toNat_next hlast]
        exact Nat.succ_le_succ (ih hcounter)

theorem nextReceive_ne_last (hclimb : run.Climbs x) (i : Nat) :
    (run.record x i id).nextReceive ≠ some .last := by
  intro hlast
  have hle := nextReceive_le_block h hplain hclimb i hlast
  have hlt := (run.host x i).height.block.toNat_lt
  refine hclimb i (UInt64.toNat_inj.1 (Nat.le_antisymm ?_ hle))
  simp only [Height.lastBlock, UInt64.size]
  exact Nat.le_of_lt_succ hlt

/-- The counter of a joined end does not go back. -/
theorem nextReceive_le (hji : j ≤ i) (hjoined : (run.record x j id).IsJoined)
    (hn : (run.record x j id).nextReceive = some n) :
    ∃ n', (run.record x i id).nextReceive = some n' ∧ n ≤ n' := by
  have hstep : (run.record x i id).IsJoined ∧
      ∃ n', (run.record x i id).nextReceive = some n' ∧ n ≤ n' := by
    induction hji with
    | refl => exact ⟨hjoined, n, hn, UInt64.le_refl _⟩
    | @step i _ ih =>
      obtain ⟨hjoined, s, hs, hle⟩ := ih
      refine ⟨(turn h x i id).isJoined hjoined, ?_⟩
      cases (turn h x i id).receives (upgrade_none h hplain i) with
      | kept hsame => exact ⟨s, hsame.trans hs, hle⟩
      | opened hnew => exact absurd hjoined hnew
      | taken hasked hcounter hcounter' =>
        obtain rfl := Option.some.inj (hs.symm.trans hcounter)
        exact ⟨_, hcounter', Sequence.le_trans hle (Sequence.le_next _)⟩
  exact hstep.2

/-! ## Not received -/

/-- What was untaken at world `j` was not handed over before. -/
theorem not_handed_before (hclimb : run.Climbs x) {order order' : ChannelOrder}
    (huntaken : run.Untaken x j id n order) (hd : (run.record x i id).channel = some d)
    (horder : d.order = order) (hkj : k < j) : ¬run.Hands x k id n order' := by
  rintro ⟨p, hop, hmem, rfl⟩
  obtain ⟨c, height, hc, hjoined, horder', -, -, -, -, hremembers⟩ := (turn h x k id).of_hand hmem
  have hsame : order = order' := by
    rw [← horder, ← horder']
    exact order_eq h hplain hc hd
  subst hsame
  cases huntaken with
  | receipt hnone => exact hnone ((received_iff h).2 ⟨k, hkj, p, hop, hmem, rfl⟩)
  | @counter next hnext hle =>
    obtain ⟨hcounter, hcounter'⟩ := hremembers.counter_of_ordered
    have hjoined' : (run.record x (k + 1) id).IsJoined := (turn h x k id).isJoined ⟨c, hc, hjoined⟩
    obtain ⟨next', hnext', hpast⟩ := nextReceive_le h hplain hkj hjoined' hcounter'
    obtain rfl := Option.some.inj (hnext.symm.trans hnext')
    have hne : p.sequence ≠ .last := by
      intro hlast
      rw [hlast] at hcounter
      exact nextReceive_ne_last h hplain hclimb k hcounter
    exact hle (Sequence.lt_of_lt_of_le (Sequence.lt_next hne) hpast)

end

/-- A packet is handed over where a message that asks for it is delivered with success. -/
theorem succeeds_of_hand {order : ChannelOrder} {hop : ConnectionId}
    (hhand : Event.receivePacket q order hop ∈ run.happens x k id) :
    ∃ m, run.Succeeds x k (.receive m) ∧ m.packet = q := by
  obtain ⟨-, -, m, hdelivered, hm⟩ := (turn h x k id).hand_in_time hhand
  refine ⟨m, succeeds_of_changed hdelivered fun hsame => ?_, hm⟩
  rw [happens, hsame, List.drop_length] at hhand
  cases hhand

/-- A step that hands a packet over seals a block. -/
theorem height_of_hand {order : ChannelOrder} {hop : ConnectionId}
    (hhand : Event.receivePacket q order hop ∈ run.happens x k id) :
    (run.host x (k + 1)).height = (run.host x k).height.next := by
  obtain ⟨m, hsucceeds, -⟩ := succeeds_of_hand h hhand
  obtain ⟨-, -, -, -, -, -, -, hheight⟩ := hsucceeds.executed
  exact hheight

/-- What was too late at world `j` is not handed over from then on. -/
theorem not_handed_from (hclimb : run.Climbs x) (hlate : run.TooLate x j p)
    (hdeadline : ∀ height time, q.timedOut height time = p.timedOut height time) (hjk : j ≤ k)
    (order : ChannelOrder) (hop : ConnectionId) :
    Event.receivePacket q order hop ∉ run.happens x k p.destination := by
  intro hhand
  obtain ⟨⟨c, hc, hopen⟩, hintime, -⟩ := (turn h x k p.destination).hand_in_time hhand
  cases hlate with
  | @late l hheight hlate =>
    -- The clock was read at world `l`, and a block lies between world `k` and any later height.
    have hlk : l ≤ k := by
      refine Nat.le_of_not_lt fun hkl => ?_
      have hafter := height_le h x (show k + 1 ≤ l from hkl)
      rw [height_of_hand h hhand, hheight] at hafter
      have hback := Height.le_trans hafter (height_le h x hjk)
      exact Height.next_ne (hclimb k) (Height.le_antisymm hback (Height.le_next _))
    have hstill := Packet.timedOut_mono (height_le h x hlk) (time_le h x hlk) hlate
    rw [← hdeadline] at hstill
    have hnow : q.timedOut (run.host x k).height (run.host x k).time = false := hintime
    rw [hnow] at hstill
    cases hstill
  | @closed l d hheight hd hclosed =>
    have hthen : (run.record x j p.destination).channel = some d := by
      rw [← (same_of_height h hclimb hheight p.destination).1]
      exact hd
    obtain ⟨e, he, hstill⟩ := stays_closed h hjk hthen hclosed
    obtain rfl := Option.some.inj (hc.symm.trans he)
    exact hopen hstill

end

/-! ### Giving up -/

/-- The proof that a packet was not received was true of some world. -/
theorem untaken_of_verified {clients : Clients} {conn : ConnectionEnd} {order : ChannelOrder}
    {next : Sequence} {proof : Bytes} {height : Height}
    (hshown : ∀ e ∈ p.unreceivedEvidence conn order next proof height, e.Verified →
      (run.view x i).shown e.height e.path e.value)
    (hverified : p.verifyUnreceived clients conn order next proof height = .ok ()) :
    ∃ j, (run.host x.other j).height = height ∧
      run.Untaken x.other j p.destination p.sequence order := by
  rcases Packet.verifyUnreceived_eq_ok.1 hverified with
      ⟨rfl, hle, -, hproof⟩ | ⟨rfl, -, hproof⟩
  · obtain ⟨j, -, hheight, hvalue⟩ := hshown _ (List.mem_singleton.2 rfl) hproof
    obtain ⟨next', hnext, hbytes⟩ := Option.map_eq_some_iff.1 hvalue
    obtain rfl := Sequence.toBytes_injective hbytes
    exact ⟨j, hheight, .counter hnext hle⟩
  · obtain ⟨j, -, hheight, hvalue⟩ := hshown _ (List.mem_singleton.2 rfl) hproof
    refine ⟨j, hheight, .receipt fun hreceived => ?_⟩
    have hvalue : ((run.record x.other j p.destination).receipts.get? p.sequence).bind
        Store.receiptValue = none := hvalue
    rw [hreceived] at hvalue
    cases hvalue

/-- A packet is given up where the other chain was shown to have been unable to take it. -/
theorem TimesOut.lapsed (h : run.Honest) (hplain : run.Unupgraded x p.source)
    (htimes : run.TimesOut x i p) : ∃ j order, run.Lapsed x.other p j order := by
  obtain ⟨m, hsucceeds, hm⟩ := htimes
  have hfit := fits h (standing h x i) hsucceeds.1
  obtain ⟨-, app, l', -, hvalid, -⟩ := hsucceeds.executed
  cases m <;> simp only [Message.timesOut?, reduceCtorEq, Option.some.injEq] at hm
  case timeout m =>
    subst hm
    obtain ⟨-, c, hc, hstate, hto, hop, hhop, conn, hconn, -, -, time, htime, hlate, hverified, -⟩ :=
      Message.Timeout.validate_eq_ok.1 hvalid
    have hevidence : (Message.timeout m).evidence (run.chain x i).store =
        m.packet.unreceivedEvidence conn c.order m.nextReceive m.proofUnreceived m.proofHeight := by
      simp [Message.evidence, Message.evidence?, Store.joined?_of hc hhop hconn]
    obtain ⟨j, hheight, huntaken⟩ := untaken_of_verified
      (fun e he => hfit.shown e (hevidence ▸ he)) hverified
    obtain ⟨l, -, hheight', rfl⟩ := hfit.clock _ _ _ htime
    have hjoined := ChannelState.isJoined_of_settling hstate
    refine ⟨j, c.order, huntaken, .late (l := l) (hheight'.trans hheight.symm) ?_,
      introduced h hplain hc hjoined hto⟩
    rw [hheight']
    unfold Packet.checkTimedOut at hlate
    split at hlate
    · assumption
    · cases hlate
  case timeoutOnClose m =>
    subst hm
    obtain ⟨-, c, hc, hto, -, hop, hhop, conn, hconn, -, remote, hremote, remoteHop, hremoteHop, -,
      ⟨-, hclosed⟩, hverified, -⟩ := Message.TimeoutOnClose.validate_eq_ok.1 hvalid
    obtain rfl := Counterparty.ofEnd_inj (hto.symm.trans hremote)
    have hevidence : (Message.timeoutOnClose m).evidence (run.chain x i).store =
        conn.claimEnd m.proofClosed m.proofHeight m.packet.destination
          ⟨.closed, c.order, .ofEnd m.packet.source, [remoteHop], c.version,
            m.counterpartyUpgradeSequence⟩ ::
        m.packet.unreceivedEvidence conn c.order m.nextReceive m.proofUnreceived m.proofHeight := by
      simp [Message.evidence, Message.evidence?, Store.joined?_of hc hhop hconn, ChannelEnd.mirror?,
        hremoteHop, ChannelEnd.remote?_eq_some.2 hremote]
    obtain ⟨j, hheight, huntaken⟩ := untaken_of_verified
      (fun e he => hfit.shown e (hevidence ▸ List.mem_cons_of_mem _ he)) hverified
    have hheld := hfit.shown _ (hevidence ▸ List.mem_cons_self) hclosed
    obtain ⟨l, -, hheight', d, hd, hstate, hfields, -⟩ := of_holds hheld
    exact ⟨j, c.order, huntaken, .closed (hheight'.trans hheight.symm) hd hstate,
      l, d, hd, congrArg UpgradeFields.order hfields⟩

/-- In step `i` chain `x` hands the packet `p` to the application of the end that it is for. -/
def HandsOver (run : Run) (x : Side) (i : Nat) (p : Packet) : Prop :=
  ∃ order hop, Event.receivePacket p order hop ∈ run.happens x i p.destination

theorem HandsOver.mem_packets (h : run.Honest) (hhand : run.HandsOver x i p) : p ∈ run.packets := by
  obtain ⟨order, hop, hmem⟩ := hhand
  obtain ⟨-, -, m, hdelivered, rfl⟩ := (turn h x i p.destination).hand_in_time hmem
  exact Run.mem_packets hdelivered rfl

theorem TimesOut.mem_packets (htimes : run.TimesOut x i p) : p ∈ run.packets := by
  obtain ⟨m, hsucceeds, hm⟩ := htimes
  refine Run.mem_packets hsucceeds.1 ?_
  cases m <;> simp only [Message.timesOut?, reduceCtorEq] at hm <;> exact hm

/-- A packet that was given up on one chain was not handed over on the other before, and it is not
afterwards. -/
theorem not_handed_over_of_timed_out (h : run.Honest) (hclimb : run.Climbs x.other) (happart : run.TellsApart)
    (hplain : run.PlainPackets) (hsource : run.Unupgraded x p.source)
    (hdestination : run.Unupgraded x.other p.destination) (htimes : run.TimesOut x i p) (k : Nat)
    (hid : q.destination = p.destination) (hseq : q.sequence = p.sequence)
    (hcommitment : q.commitment = p.commitment) : ¬run.HandsOver x.other k q := by
  intro hhand
  have hp := htimes.mem_packets
  have hq := hhand.mem_packets h
  have hinput := happart q hq p hp hcommitment
  obtain ⟨hheight, htime⟩ := Packet.deadline_eq hinput (hplain q hq) (hplain p hp)
  obtain ⟨order, hop, hmem⟩ := hhand
  rw [hid] at hmem
  obtain ⟨j, order', huntaken, hlate, l, d, hd, horder⟩ := htimes.lapsed h hsource
  rcases Nat.lt_or_ge k j with hkj | hjk
  · have hhands : run.Hands x.other k p.destination p.sequence order := ⟨q, hop, hmem, hseq⟩
    exact not_handed_before h hdestination hclimb huntaken hd horder hkj hhands
  · refine not_handed_from h hclimb hlate (fun height time => ?_) hjk order hop hmem
    unfold Packet.timedOut
    rw [hheight, htime]

end

/-! ## A packet that is late -/

section
attribute [local instance] Digest.plain

open Sample (endId storePrefix)

/-- A packet for the chain `b` to receive before block 8. -/
def shortLived : Packet := { Sample.packet 1 with timeoutHeight := .at ⟨0, 8⟩ }

/-- The packet `p` is given up on the proof that there was no receipt of it at block `block`. -/
def givingUp (p : Packet) (block : UInt64) : Message :=
  .timeout ⟨p, .one, Proof.absence ⟨0, block⟩ storePrefix (.receipt endId .one), ⟨0, block⟩, Sample.signer⟩

/-- The packet `p`, which was sent at block 7, is received. -/
def arriving (p : Packet) : Message :=
  .receive ⟨p, Sample.proofAt 7 (.commitment endId .one) p.commitment, ⟨0, 7⟩, Sample.signer⟩

/-- Chain `a` gives the packet up when `b` is at block 8, where the packet then arrives. -/
def overtaken : Run :=
  ⟨Sample.joined 5, Sample.opening .unordered 6 7 ++
    [⟨.a, .send ⟨1⟩ shortLived⟩, ⟨.b, .advanceBlock⟩, Sample.hears .a, Sample.gets .a (givingUp shortLived 8),
      Sample.hears .b, Sample.gets .b (arriving shortLived)]⟩

theorem overtaken_facts : (∀ i, i < overtaken.steps.length → overtaken.TruthfulAt i) ∧
    overtaken.Climbing ∧ overtaken.TellsApart ∧ overtaken.PlainPackets ∧
    (∀ s ∈ overtaken.steps, s.action.upgrades? ≠ some endId) ∧
    overtaken.Succeeds .a 10 (givingUp shortLived 8) := by
  decide +kernel

theorem not_handed_over_when_overtaken : overtaken.TimesOut .a 10 shortLived ∧
    ∀ k, ¬overtaken.HandsOver .b k shortLived :=
  have ⟨htrue, hclimb, happart, hplain, hsteps, hsucceeds⟩ := overtaken_facts
  have htimes : overtaken.TimesOut .a 10 shortLived := ⟨_, hsucceeds, rfl⟩
  ⟨htimes, fun k => not_handed_over_of_timed_out (Sample.honest_of_truthful htrue) (hclimb.climbs _) happart
    hplain (unupgraded_of_steps hsteps) (unupgraded_of_steps hsteps) htimes k rfl rfl rfl⟩

/-! ## A chain that stands still -/

/-- A packet for the chain `a` to receive in the first minute. -/
def hurried : Packet :=
  { Sample.packet 1 with timeoutHeight := .never
                         timeoutTime := .at ⟨Sample.startTime.nanos + 60 * 1000000000⟩ }

/-- Chain `a` is at the last height. It takes the packet, and when the minute is over `b` gives it up on the
proof that `a` had no receipt of it at that height. -/
def lingering : Run :=
  ⟨Sample.joined Height.lastBlock, Sample.opening .unordered Height.lastBlock Height.lastBlock ++
    [⟨.b, .send ⟨1⟩ hurried⟩, Sample.hears .a, Sample.gets .a (arriving hurried),
      ⟨.a, .advanceTime (60 * 1000000000)⟩, Sample.hears .b,
      Sample.gets .b (givingUp hurried Height.lastBlock)]⟩

theorem lingering_facts : (∀ i, i < lingering.steps.length → lingering.TruthfulAt i) ∧
    lingering.TellsApart ∧ lingering.PlainPackets ∧
    (∀ s ∈ lingering.steps, s.action.upgrades? ≠ some endId) ∧
    Event.receivePacket hurried .unordered Sample.connectionId ∈ lingering.happens .a 9 endId ∧
    lingering.Succeeds .b 12 (givingUp hurried Height.lastBlock) := by
  decide +kernel

/-- At the last height, where the past and the present cannot be told apart, a packet is both received and
given up. -/
theorem both_when_standing_still : lingering.Honest ∧ lingering.TellsApart ∧ lingering.PlainPackets ∧
    lingering.Unupgraded .b endId ∧ lingering.Unupgraded .a endId ∧
    ∃ i k p, p.source = endId ∧ p.destination = endId ∧ lingering.TimesOut .b i p ∧
      lingering.HandsOver .a k p :=
  have ⟨htrue, happart, hplain, hsteps, hhand, hsucceeds⟩ := lingering_facts
  ⟨Sample.honest_of_truthful htrue, happart, hplain, unupgraded_of_steps hsteps, unupgraded_of_steps hsteps,
    12, 9, hurried, rfl, rfl, ⟨_, hsucceeds, rfl⟩, _, _, hhand⟩

end

end Run

end ChannelLayer
