import ChannelLayer.Proofs.Agreement
import ChannelLayer.Proofs.Tally

/-!
# How often a packet is handed over

An unordered end remembers a packet by a receipt and an ordered one by its counter. An end that becomes
ordered goes on from where the other end's sending had stopped, and nothing that it has taken before lies
beyond (`Run.Commits.handed_lt`), so that the counter covers what the receipts did (`Run.counted`). An end
that becomes unordered writes no receipts for what the counter covered, and forgets it
(`Run.handed_again_iff`).
-/

set_option autoImplicit false

namespace ChannelLayer.Run

section
variable [Digest] (run : Run)

/-- In step `i` the end `id` hands the packet `n` to its application, which is reported with the ordering
that the channel has. -/
def Hands (x : Side) (i : Nat) (id : EndId) (n : Sequence) (order : ChannelOrder) : Prop :=
  ∃ p hop, Event.receivePacket p order hop ∈ run.happens x i id ∧ p.sequence = n

/-- No end has sent so many packets that the next one has no number. -/
def SendsOn : Prop := ∀ i x id, (run.record x i id).nextSend ≠ some .last

instance : Decidable run.SendsOn :=
  decidable_of_iff _ (forall_record run (P := fun r => r.nextSend ≠ some .last) (by decide)).symm

end

section
variable [Digest] {run : Run} {x : Side} {i j k : Nat} {id remote : EndId} {c : ChannelEnd} {u w : Upgrade}
  {n : Sequence} {o : ChannelOrder} {m : UInt64} {f : UpgradeFields}

/-! ## Records -/

theorem specified (h : run.Honest) (x : Side) (i : Nat) (id : EndId) :
    (run.record x i id).Specified := by
  induction i with
  | zero =>
    rw [record_zero h]
    exact ⟨fun _ hc => (by cases hc), fun _ hu => (by cases hu)⟩
  | succ i ih => exact (turn h x i id).specified ih

theorem tallied (h : run.Honest) (hsend : run.SendsOn) (x : Side) (i : Nat) (id : EndId) :
    (run.record x i id).Tallied := by
  induction i with
  | zero =>
    rw [record_zero h]
    intro n hn
    exact absurd rfl hn
  | succ i ih => exact (turn h x i id).tallied ih (hsend i x id)

theorem nextSend_le (h : run.Honest) (hji : j ≤ i) (hjoined : (run.record x j id).IsJoined)
    (hn : (run.record x j id).nextSend = some n) :
    ∃ n', (run.record x i id).nextSend = some n' ∧ n ≤ n' := by
  have hstep : (run.record x i id).IsJoined ∧
      ∃ n', (run.record x i id).nextSend = some n' ∧ n ≤ n' := by
    induction hji with
    | refl => exact ⟨hjoined, n, hn, UInt64.le_refl _⟩
    | @step i _ ih =>
      obtain ⟨hjoined, s, hs, hle⟩ := ih
      obtain ⟨s', hs', hle'⟩ := (turn h x i id).nextSend_le hjoined hs
      exact ⟨(turn h x i id).isJoined hjoined, s', hs', Sequence.le_trans hle hle'⟩
  exact hstep.2

/-- Past its proposal, an end in an attempt stands where it said that its sending had stopped. -/
theorem stands_at_plan (h : run.Honest) {a : Nat} (hlo : 5 * a < (run.record x i id).phase)
    (hhi : (run.record x i id).phase ≤ 5 * a + 3) (hu : (run.record x i id).upgrade = some u) :
    (run.record x i id).nextSend = some u.nextSend := by
  cases hc : (run.record x i id).channel with
  | none => simp [ChannelRecord.phase, hc] at hlo
  | some c =>
    have hphase := ChannelRecord.phase_of hc
    have hrank := c.state.rank_le
    exact (orderly h x i id).nextSend_of_flushing hc (by omega) (by omega) hu

/-- An end has a receipt of a packet if it has handed it over while it was unordered. -/
theorem received_iff (h : run.Honest) : (run.record x i id).receipts.get? n = some .received ↔
    ∃ k, k < i ∧ run.Hands x k id n .unordered := by
  induction i with
  | zero =>
    rw [record_zero h]
    exact ⟨fun hn => (by cases hn), fun ⟨k, hk, _⟩ => absurd hk (Nat.not_lt_zero k)⟩
  | succ i ih =>
    rw [(turn h x i id).received_iff, ih]
    constructor
    · rintro (⟨k, hki, hhands⟩ | hhands)
      · exact ⟨k, Nat.lt_succ_of_lt hki, hhands⟩
      · exact ⟨i, Nat.lt_succ_self i, hhands⟩
    · rintro ⟨k, hki, hhands⟩
      rcases Nat.lt_succ_iff_lt_or_eq.1 hki with hki | rfl
      · exact .inl ⟨k, hki, hhands⟩
      · exact .inr hhands

/-! ## Handing over -/

/-- What is known of an end that hands over the packet `n`, and of the end `remote` that sent it, as it was
at world `j`. -/
structure Taken (run : Run) (x : Side) (i : Nat) (id : EndId) (n : Sequence) (o : ChannelOrder)
    (c : ChannelEnd) (remote : EndId) (j : Nat) (next : Sequence) : Prop where
  channel : (run.record x i id).channel = some c
  joined : c.state.isJoined = true
  order : c.order = o
  facing : c.remote = .ofEnd remote
  before : ∀ w, (run.record x i id).counterpartyUpgrade = some w → n < w.nextSend
  kept : (run.record x (i + 1) id).channel = (run.record x i id).channel
  remembers : Turn.Remembers (run.record x i id) (run.record x (i + 1) id) n o
  shown : j ≤ i
  sender : (run.record x.other j remote).IsJoined
  counter : (run.record x.other j remote).nextSend = some next
  sent : n < next

theorem Hands.taken (h : run.Honest) (hsend : run.SendsOn) (hhands : run.Hands x i id n o) :
    ∃ c remote j next, run.Taken x i id n o c remote j next := by
  obtain ⟨p, hop, hmem, rfl⟩ := hhands
  obtain ⟨c, height, hc, hjoined, horder, hto, hbefore, ⟨j, hji, -, hvalue⟩, hkept,
    hremembers⟩ := (turn h x i id).of_hand hmem
  have hflight : (run.record x.other j p.source).commitments.get? p.sequence ≠ none :=
    Option.ne_none_iff_exists'.2 ⟨_, hvalue⟩
  obtain ⟨hsender, next, hnext, hlt⟩ := tallied h hsend x.other j p.source p.sequence hflight
  exact ⟨c, p.source, j, next, hc, hjoined, horder, hto, fun w hw => Sequence.not_le.1 (hbefore w hw),
    hkept, hremembers, hji, hsender, hnext, hlt⟩

section
variable (h : run.Honest) (hcount : run.Counting)

include h hcount

/-- Until it leaves the attempt, the other end has sent no more than its upgrade says. -/
theorem nextSend_le_plan {d : ChannelEnd} {next : Sequence}
    (hmatched : run.Matched x id c u remote i d w) (hupgrading : d.state.isUpgrading = true)
    (hinit : d.state ≠ .initUpgrade) (hsender : (run.record x.other j remote).IsJoined)
    (hnext : (run.record x.other j remote).nextSend = some next)
    (hwithin : (run.record x.other j remote).phase ≤ 5 * c.upgradeSequence.toNat + 3) :
    next ≤ w.nextSend := by
  obtain ⟨hlo, hhi⟩ := hmatched.phase hupgrading hinit
  rcases Nat.le_total j i with hji | hij
  · obtain ⟨next', hnext', hle⟩ := nextSend_le h hji hsender hnext
    have hplan := stands_at_plan h hlo hhi hmatched.upgrade
    obtain rfl := Option.some.inj (hnext'.symm.trans hplan)
    exact hle
  · obtain ⟨d', hkept⟩ := kept h hcount hij (Nat.le_of_lt hlo) hwithin hmatched.there
    have hw := (hkept.upgrade (.inl hlo)).trans hmatched.upgrade
    have hmono := phase_le h hcount x.other remote hij
    have hplan := stands_at_plan h (Nat.lt_of_lt_of_le hlo hmono) hwithin hw
    obtain rfl := Option.some.inj (hplan.symm.trans hnext)
    exact UInt64.le_refl _

variable (hplain : run.PlainDeadlines) (hclimb : run.Climbing)

include hplain hclimb

/-- An end that commits when the other one has left the attempt had flushed before that. -/
theorem Commits.flushed_since (hcommit : run.Commits x i id remote m f) (hji : j ≤ i)
    (hpast : 5 * m.toNat + 4 ≤ (run.record x.other j remote).phase) :
    5 * m.toNat + 3 ≤ (run.record x j id).phase := by
  have hmono := phase_le h hcount x.other remote hji
  cases Commits.concurs h hcount hplain hclimb hcommit with
  | flushed hd hstate hback hseq =>
    have hphase := ChannelRecord.phase_of hd
    simp only [hstate, hseq, ChannelState.rank] at hphase
    omega
  | @committed k g hki hcommit' =>
    -- The other end had committed, and found this one flushed as it did.
    obtain ⟨-, hbefore, -⟩ := hcommit'.phase h
    have hkj : k < j := lt_of_phase_lt h hcount x.other remote (by omega)
    have hflushed := (Commits.concurs h hcount hplain hclimb hcommit').phase h hcount
    rw [Side.other_other] at hflushed
    exact Nat.le_trans hflushed (phase_le h hcount x id (Nat.le_of_lt hkj))

variable (hsend : run.SendsOn)

include hsend

/-- All that an end has handed over when it commits was sent before the other end stopped for the
attempt. -/
theorem Commits.handed_lt (hcommit : run.Commits x i id remote m f) :
    ∃ c u w, (run.record x i id).channel = some c ∧ (run.record x i id).upgrade = some u ∧
      run.record x (i + 1) id = (run.record x i id).commit c u w ∧
      ∀ k n o, k < i → run.Hands x k id n o → n < w.nextSend := by
  obtain ⟨-, hin, -⟩ := hcommit.phase h
  obtain ⟨c, u, w, hc, hu, rfl, hto, rfl, hgrounds, hrecord⟩ := hcommit.grounds h
  refine ⟨c, u, w, hc, hu, hrecord, fun k n o hki hhands => ?_⟩
  obtain ⟨c₁, remote', j, next, htaken⟩ := hhands.taken h hsend
  obtain ⟨c', hc', -, hto', -⟩ := stays_joined h (Nat.le_of_lt hki) htaken.channel htaken.joined
  obtain rfl := Option.some.inj (hc.symm.trans hc')
  obtain rfl := Counterparty.ofEnd_inj (hto.symm.trans (hto'.trans htaken.facing))
  by_cases hwithin : (run.record x.other j remote).phase ≤ 5 * c.upgradeSequence.toNat + 3
  · obtain ⟨j₀, d, -, hmatched, hupgrading, hinit, -⟩ :=
      matched_of_grounds h hcount hplain hclimb hc hu hto hgrounds
    exact Sequence.lt_of_lt_of_le htaken.sent
      (nextSend_le_plan h hcount hmatched hupgrading hinit htaken.sender htaken.counter hwithin)
  · -- The other end was past the attempt, so that this one was flushed and took nothing from beyond.
    have hji := Nat.le_of_lt (Nat.lt_of_le_of_lt htaken.shown hki)
    have hflushed := hcommit.flushed_since h hcount hplain hclimb hji (Nat.lt_of_not_le hwithin)
    have hthen := phase_le h hcount x id htaken.shown
    have hsince := phase_le h hcount x id (Nat.le_of_lt hki)
    obtain ⟨c₂, hkept⟩ := kept h hcount (Nat.le_of_lt hki) (n := c.upgradeSequence.toNat) (by omega)
      hin htaken.channel
    cases hgrounds with
    | confirmed htry =>
      have hphase := ChannelRecord.phase_of hc
      simp only [htry, ChannelState.rank] at hphase
      omega
    | flushed hstate hto'' hw =>
      exact htaken.before w ((hkept.counterparty (by omega)).symm.trans hw)

/-- The counter of an ordered end is past all that the end has ever handed over. -/
theorem counted (hc : (run.record x i id).channel = some c) (horder : c.order = .ordered) (hki : k < i)
    (hhands : run.Hands x k id n o) :
    ∃ next, (run.record x i id).nextReceive = some next ∧ n < next := by
  induction i generalizing c k n o with
  | zero => exact absurd hki (Nat.not_lt_zero k)
  | succ i ih =>
    obtain ⟨c₁, remote, j, next, htaken⟩ := hhands.taken h hsend
    rcases Nat.lt_succ_iff_lt_or_eq.1 hki with hki | rfl
    · obtain ⟨d, hd, hjoined, hto, -⟩ := stays_joined h (Nat.le_of_lt hki) htaken.channel htaken.joined
      cases (turn h x i id).of_ordered (specified h x i id) ⟨d, hd, hjoined⟩ hc horder with
      | kept hd' hordered hsame =>
        obtain ⟨next, hcounter, hlt⟩ := ih hd' hordered hki hhands
        exact ⟨next, hsame.trans hcounter, hlt⟩
      | acknowledged hd' hordered hsame =>
        obtain ⟨next, hcounter, hlt⟩ := ih hd' hordered hki hhands
        exact ⟨next, hsame.trans hcounter, hlt⟩
      | @handed d' p hop hd' hordered hhand =>
        obtain ⟨next, hcounter, hlt⟩ := ih hd' hordered hki hhands
        have hlater : run.Hands x i id p.sequence .ordered := ⟨p, hop, hhand, rfl⟩
        obtain ⟨_, _, _, _, htaken'⟩ := hlater.taken h hsend
        obtain ⟨hnext, hnext'⟩ := htaken'.remembers.counter_of_ordered
        obtain rfl := Option.some.inj (hcounter.symm.trans hnext)
        have hstep : p.sequence < p.sequence.next :=
          Sequence.lt_next (Sequence.ne_last_of_lt htaken'.sent)
        exact ⟨_, hnext', Sequence.lt_trans hlt hstep⟩
      | @resumed d' u hd' hunordered hu hnew hcommits =>
        -- The end counts on from where the other end's sending had stopped.
        obtain rfl := Option.some.inj (hd.symm.trans hd')
        obtain ⟨u', hu', hcommit⟩ := commits_of_turn (hto.trans htaken.facing) hcommits
        obtain ⟨c', u'', w, hc', hu'', hrecord, hlt⟩ :=
          hcommit.handed_lt h hcount hplain hclimb hsend
        obtain rfl := Option.some.inj (hd.symm.trans hc')
        obtain rfl := Option.some.inj (hu.symm.trans hu'')
        refine ⟨w.nextSend, ?_, hlt k n o hki hhands⟩
        rw [hrecord, ChannelRecord.nextReceive_commit hunordered hnew]
    · -- The packet was handed over just now.
      obtain rfl := Option.some.inj (hc.symm.trans (htaken.kept.trans htaken.channel))
      obtain rfl := horder.symm.trans htaken.order
      obtain ⟨-, hnext'⟩ := htaken.remembers.counter_of_ordered
      exact ⟨_, hnext', Sequence.lt_next (Sequence.ne_last_of_lt htaken.sent)⟩

/-- A packet that is handed over twice is so first by an ordered end and then by an unordered one. -/
theorem ordered_then_unordered (hij : i < j) {o' : ChannelOrder} (hhands : run.Hands x i id n o)
    (hagain : run.Hands x j id n o') : o = .ordered ∧ o' = .unordered := by
  obtain ⟨c, remote, l, next, htaken⟩ := hhands.taken h hsend
  obtain ⟨c', remote', l', next', htaken'⟩ := hagain.taken h hsend
  have hsecond : o' = .unordered := by
    cases htaken'.remembers with
    | receipt => rfl
    | counter hnext =>
      obtain ⟨next, hcounter, hlt⟩ :=
        counted h hcount hplain hclimb hsend htaken'.channel htaken'.order hij hhands
      obtain rfl := Option.some.inj (hnext.symm.trans hcounter)
      exact absurd hlt (Sequence.lt_irrefl n)
  subst hsecond
  refine ⟨?_, rfl⟩
  cases htaken.remembers with
  | receipt =>
    exact absurd ((received_iff h).2 ⟨i, hij, hhands⟩) htaken'.remembers.receipt_of_unordered
  | counter => rfl

end

/-- An unordered end that accepts a packet hands it over unless it has a receipt of it. -/
theorem Accepts.hands {m : Message.Receive} (haccepts : run.Accepts x i (.receive m))
    (hc : (run.record x i m.packet.destination).channel = some c) (horder : c.order = .unordered)
    (hfirst : (run.record x i m.packet.destination).receipts.get? m.packet.sequence ≠ some .received) :
    run.Hands x i m.packet.destination m.packet.sequence .unordered := by
  obtain ⟨_, app, hfind, hvalid⟩ := haccepts.valid
  obtain ⟨-, d, hd, -, -, -, hop, hhop, -⟩ := Message.Receive.validate_eq_ok.1 hvalid
  obtain rfl := Option.some.inj (hc.symm.trans hd)
  have hnew : (run.chain x i).store.receipt m.packet.destination m.packet.sequence ≠ .received := by
    intro hreceived
    unfold Store.receipt at hreceived
    cases hreceipt : ((run.chain x i).store.record m.packet.destination).receipts.get?
        m.packet.sequence with
    | none => simp [hreceipt] at hreceived
    | some receipt =>
      rw [hreceipt, Option.getD_some] at hreceived
      exact hfirst (hreceived ▸ hreceipt)
  obtain ⟨l', hx⟩ : ∃ l', m.execute ⟨(run.chain x i).store, app⟩ = .ok () l' :=
    Message.Receive.execute_of_unordered hc horder hhop hnew
  obtain ⟨r, hop', hw⟩ := Message.Receive.writes_of_unordered hc horder hnew hx
  have hstore : (run.chain x (i + 1)).store = l'.store := by
    rw [chain_succ haccepts.1, if_pos rfl]
    exact Chain.store_after_deliver hfind hvalid hx
  have hwrites := hw.toWrites
  rw [← hstore] at hwrites
  have hnews : run.happens x i m.packet.destination = _ := hwrites.news m.packet.destination
  refine ⟨m.packet, hop', ?_, rfl⟩
  rw [hnews]
  exact List.mem_filter.2 ⟨List.mem_singleton.2 rfl, by simp [Event.decides?]⟩

/-- A packet that was handed over before and is accepted again is handed over again if the end is unordered
now and was ordered whenever it took it; otherwise it is passed over. -/
theorem handed_again_iff (h : run.Honest) (hcount : run.Counting) (hplain : run.PlainDeadlines)
    (hclimb : run.Climbing) (hsend : run.SendsOn) {m : Message.Receive} (hij : i < j)
    (hhands : run.Hands x i m.packet.destination m.packet.sequence o)
    (haccepts : run.Accepts x j (.receive m)) :
    ∃ c, (run.record x j m.packet.destination).channel = some c ∧
      ((∃ o', run.Hands x j m.packet.destination m.packet.sequence o') ↔
        c.order = .unordered ∧
          ∀ k o', k < j → run.Hands x k m.packet.destination m.packet.sequence o' → o' = .ordered) := by
  obtain ⟨_, app, -, hvalid⟩ := haccepts.valid
  obtain ⟨-, c, hc, -⟩ := Message.Receive.validate_eq_ok.1 hvalid
  refine ⟨c, hc, fun ⟨o', hagain⟩ => ⟨?_, fun k o'' hkj hbefore => ?_⟩, fun ⟨horder, hordered⟩ => ?_⟩
  · obtain ⟨d, remote, l, next, htaken⟩ := hagain.taken h hsend
    obtain rfl := Option.some.inj (hc.symm.trans htaken.channel)
    rw [htaken.order]
    exact (ordered_then_unordered h hcount hplain hclimb hsend hij hhands hagain).2
  · exact (ordered_then_unordered h hcount hplain hclimb hsend hkj hbefore hagain).1
  · refine ⟨.unordered, haccepts.hands hc horder fun hreceived => ?_⟩
    obtain ⟨k, hkj, hbefore⟩ := (received_iff h).1 hreceived
    cases hordered k _ hkj hbefore

end

/-! ## A packet that is replayed -/

section
attribute [local instance] Digest.plain

open Sample (endId channel)

/-- Chain `a` sends the packet 1, and `b` receives it on the proof at block 7. -/
def reception : Message.Receive :=
  ⟨Sample.packet 1, Sample.proofAt 7 (.commitment endId .one) (Sample.packet 1).commitment, ⟨0, 7⟩,
    Sample.signer⟩

def receiving : List Step :=
  [⟨.a, .send ⟨1⟩ (Sample.packet 1)⟩, Sample.hears .b, Sample.gets .b (.receive reception)]

def passedOver : Run :=
  ⟨Sample.joined 5, Sample.opening .unordered 6 7 ++ receiving ++ [Sample.gets .b (.receive reception)]⟩

theorem passedOver_facts : (∀ i, i < passedOver.steps.length → passedOver.TruthfulAt i) ∧
    passedOver.Counting ∧ passedOver.PlainDeadlines ∧ passedOver.Climbing ∧ passedOver.SendsOn ∧
    Event.receivePacket (Sample.packet 1) .unordered Sample.connectionId ∈ passedOver.happens .b 9 endId ∧
    passedOver.steps[10]? = some ⟨.b, .deliver (.receive reception)⟩ ∧
    (passedOver.chain .b 10).validate (.receive reception) = .ok () := by
  decide +kernel

/-- On an unordered channel the end has a receipt of the packet. -/
theorem passed_over_when_unordered : ∃ c, (passedOver.record .b 10 endId).channel = some c ∧
    ((∃ o, passedOver.Hands .b 10 endId .one o) ↔ c.order = .unordered ∧
      ∀ k o, k < 10 → passedOver.Hands .b k endId .one o → o = .ordered) :=
  have ⟨htrue, hcount, hplain, hclimb, hsend, hmem, hstep, hvalid⟩ := passedOver_facts
  handed_again_iff (m := reception) (Sample.honest_of_truthful htrue) hcount hplain hclimb hsend
    (by decide : 9 < 10) ⟨_, _, hmem, rfl⟩ ⟨hstep, hvalid⟩

/-- Chain `b` receives the packet while the channel is ordered, the channel becomes unordered, and the
packet is received once more on the same proof. -/
def forgetful : Run :=
  let c := channel .opened .ordered 0
  let f := Sample.upgradeFields .unordered Sample.version
  ⟨Sample.joined 5, Sample.opening .ordered 6 7 ++ receiving ++
    [Sample.hears .a, Sample.gets .a (.acknowledge ⟨Sample.packet 1, successAck,
      Sample.proofAt 8 (.ack endId .one) successAck.commitment, ⟨0, 8⟩, Sample.signer⟩)] ++
    Sample.joining c f Sample.upgradeTimeout 9 9 ++
    Sample.confirming c ⟨f, Sample.upgradeTimeout, Sequence.one.next⟩ 10 ++
    [Sample.gets .b (.receive reception)]⟩

theorem forgetful_facts : (∀ i, i < forgetful.steps.length → forgetful.TruthfulAt i) ∧
    forgetful.Counting ∧ forgetful.PlainDeadlines ∧ forgetful.Climbing ∧ forgetful.SendsOn ∧
    Event.receivePacket (Sample.packet 1) .ordered Sample.connectionId ∈ forgetful.happens .b 9 endId ∧
    Event.receivePacket (Sample.packet 1) .unordered Sample.connectionId ∈
      forgetful.happens .b 19 endId := by
  decide +kernel

/-- An end that has become unordered hands over a packet that it handed over when it was ordered. -/
theorem hands_twice_when_forgetful : forgetful.Honest ∧ forgetful.Counting ∧ forgetful.PlainDeadlines ∧
    forgetful.Climbing ∧ forgetful.SendsOn ∧ ∃ i j n o o', i < j ∧ forgetful.Hands .b i endId n o ∧
      forgetful.Hands .b j endId n o' :=
  have ⟨htrue, hcount, hplain, hclimb, hsend, hfirst, hagain⟩ := forgetful_facts
  ⟨Sample.honest_of_truthful htrue, hcount, hplain, hclimb, hsend, 9, 19, .one, .ordered, .unordered,
    by decide, ⟨_, _, hfirst, rfl⟩, ⟨_, _, hagain, rfl⟩⟩

end

end ChannelLayer.Run
