import ChannelLayer.Proofs.Counters
import ChannelLayer.Proofs.Lapse

/-!
# Packets and answers that are not forged

What is proved of a packet is a hash of its data and its deadline, under a path that the relayer has put
together. The other fields are vouched for by the ends: the one that takes the packet names the one that the
path leads to, which names it back and did so when it sent the packet (`Run.HandsOver.sent`). A deadline of zero,
which is hashed like none, has passed for those who send and for those who receive. What is acknowledged of a
packet is what the application answered as it was handed the packet (`Run.answer_of_ack`).
-/

set_option autoImplicit false

namespace ChannelLayer

/-! ## Answers -/

/-- What sample applications answer. -/
def sampleAcks : List Acknowledgement := [successAck, failureAck]

theorem App.receive_mem_sampleAcks {a : App} (h : a.isSample = true) (p : Packet) :
    (a.receive p).2 ∈ sampleAcks := by
  cases a with
  | dummy d =>
    simp only [receive, DummyApp.receive, sampleAcks]
    split <;> simp
  | accountHost host => exact List.mem_cons_self
  | scripted s => cases h

/-- A packet is passed over, or the chain commits to what the application answers. -/
theorem Message.Receive.acks_of_execute [Digest] {m : Message.Receive} {s : Store} {app : App} {l' : Ledger}
    (hx : m.execute ⟨s, app⟩ = .ok () l') : l'.store = s ∨
      (l'.store.record m.packet.destination).acks = (s.record m.packet.destination).acks.insert
        m.packet.sequence (app.receive m.packet).2.commitment := by
  simp [execute, and_assoc] at hx
  obtain ⟨c, -, ⟨-, hx⟩ | ⟨-, rfl⟩⟩ := hx
  · simp [take, and_assoc] at hx
    obtain ⟨_, l, hremember, hop, -, rfl⟩ := hx
    have hkept : (l.store.record m.packet.destination).acks = (s.record m.packet.destination).acks := by
      cases horder : c.order <;> simp [remember, horder, and_assoc] at hremember
      case unspecified => rw [← hremember]
      case unordered => simp [← hremember, Store.addReceipt]
      case ordered =>
        obtain ⟨next, -, rfl⟩ := hremember
        simp [Store.setNextReceive]
    right
    simp [Store.addAck, hkept]
  · exact .inl rfl

/-- The acknowledgement that the action brings. -/
def Action.ack? : Action → Option Acknowledgement
  | .deliver (.acknowledge m) => some m.ack
  | _ => none

/-! ## Commitments -/

namespace Packet

variable [Digest] {p q : Packet}

/-- The digest of the data is the last part of what is committed to. -/
theorem digest_data_of_commitmentInput (h : p.commitmentInput = q.commitmentInput) :
    digest p.data = digest q.data := by
  unfold commitmentInput packetCommitmentInput at h
  exact (List.append_inj h (by simp)).2

end Packet

namespace Run

section
variable [Digest] (run : Run)

/-- In step `i` chain `x` sends the packet `p`. -/
def Sends (x : Side) (i : Nat) (p : Packet) : Prop :=
  ∃ handle, run.steps[i]? = some ⟨x, .send handle p⟩ ∧ (run.chain x i).sends handle p = true

/-- In step `i` chain `x` hands the packet `p` to the application of its end, which answers `ack`. -/
structure Answers (x : Side) (i : Nat) (p : Packet) (ack : Acknowledgement) : Prop where
  handed : run.HandsOver x i p
  answer : ∃ id app, (run.chain x i).router.find p.destination.port = .ok (id, app) ∧
    (app.receive p).2 = ack

/-- What is hashed of the packets of the run and of what is answered to them. -/
def hashed : List Bytes :=
  run.packets.flatMap (fun p => [p.commitmentInput, p.data]) ++
    (sampleAcks ++ run.steps.filterMap fun s => s.action.ack?).map fun ack => ack.bytes

/-- The hash tells apart what is hashed of packets and answers. -/
def CollisionFree : Prop := ∀ a ∈ run.hashed, ∀ b ∈ run.hashed, digest a = digest b → a = b

end

section
variable [Digest] {run : Run} {x : Side} {i j : Nat} {id : EndId} {p q : Packet} {n : Sequence} {bytes : Bytes}

/-! ## Sending -/

theorem Sends.accepted (hsends : run.Sends x i p) :
    (∃ handle, p.validateSend (run.host x i) (run.chain x i).store handle = .ok ()) ∧
      (run.record x (i + 1) p.source).nextSend = some p.sequence.next := by
  obtain ⟨handle, hstep, hsends⟩ := hsends
  obtain ⟨hv, hx⟩ := Chain.store_of_sends hsends
  refine ⟨⟨handle, hv⟩, ?_⟩
  have hstore : run.chain x (i + 1) = (run.chain x i).after (Chain.send handle p) := by
    rw [chain_succ hstep, if_pos rfl]
    rfl
  rw [record, hstore, (Packet.send_writes hv hx).self]

theorem Sends.mem_packets (hsends : run.Sends x i p) : p ∈ run.packets := by
  obtain ⟨handle, hstep, -⟩ := hsends
  exact Run.mem_packets hstep rfl

/-- The end that sends a packet names the end that the packet is for. -/
theorem Sends.sender (hsends : run.Sends x i p) :
    ∃ c, (run.record x i p.source).channel = some c ∧ c.state.isJoined = true ∧
      c.remote = .ofEnd p.destination := by
  obtain ⟨⟨handle, hv⟩, -⟩ := hsends.accepted
  obtain ⟨-, c, hc, hsending, -, hto, -⟩ := Packet.validateSend_eq_ok.1 hv
  exact ⟨c, hc, ChannelState.isJoined_of_isSending hsending, hto⟩

theorem Sends.nextSend (hsends : run.Sends x i p) : (run.record x i p.source).nextSend = some p.sequence := by
  obtain ⟨⟨handle, hv⟩, -⟩ := hsends.accepted
  obtain ⟨-, c, -, -, -, -, -, -, -, -, -, -, -, -, -, hnext⟩ := Packet.validateSend_eq_ok.1 hv
  exact hnext

/-- What is sent still has some time. -/
theorem Sends.not_dueAtOnce (hsends : run.Sends x i p) : ¬p.DueAtOnce := by
  intro hdue
  obtain ⟨⟨handle, hv⟩, -⟩ := hsends.accepted
  obtain ⟨-, c, -, -, -, -, -, -, -, -, height, -, time, -, hintime, -⟩ := Packet.validateSend_eq_ok.1 hv
  rw [Packet.timedOut_of_dueAtOnce hdue] at hintime
  cases hintime

/-- An end does not send two packets under one number, but for the last one. -/
theorem Sends.unique (h : run.Honest) (hp : run.Sends x i p) (hq : run.Sends x j q)
    (hsource : q.source = p.source) (hsequence : q.sequence = p.sequence) (hlast : p.sequence ≠ .last) :
    q = p := by
  -- After the earlier one of the two the counter is past their number.
  have hpast {i j : Nat} {p q : Packet} (hp : run.Sends x i p) (hq : run.Sends x j q)
      (hsource : q.source = p.source) (hsequence : q.sequence = p.sequence) (hlast : p.sequence ≠ .last) :
      ¬i < j := by
    intro hij
    obtain ⟨c, hc, hjoined, -⟩ := hp.sender
    have hjoined' := (turn h x i p.source).isJoined ⟨c, hc, hjoined⟩
    obtain ⟨next, hnext, hle⟩ := nextSend_le h hij hjoined' hp.accepted.2
    have hnow := hq.nextSend
    rw [hsource, hsequence] at hnow
    obtain rfl := Option.some.inj (hnext.symm.trans hnow)
    exact Sequence.lt_irrefl _ (Sequence.lt_of_lt_of_le (Sequence.lt_next hlast) hle)
  obtain rfl : j = i := by
    have hij := hpast hp hq hsource hsequence hlast
    have hji := hpast hq hp hsource.symm hsequence.symm (hsequence ▸ hlast)
    omega
  obtain ⟨handle, hstep, -⟩ := hp
  obtain ⟨handle', hstep', -⟩ := hq
  cases hstep.symm.trans hstep'
  rfl

/-- A packet that is committed to was sent. -/
theorem sent_of_commitment (h : run.Honest) (hn : (run.record x i id).commitments.get? n = some bytes) :
    ∃ j p, j < i ∧ run.Sends x j p ∧ p.source = id ∧ p.sequence = n ∧ p.commitment = bytes := by
  induction i with
  | zero =>
    rw [record_zero h] at hn
    cases hn
  | succ i ih =>
    have hearlier (hn : (run.record x i id).commitments.get? n = some bytes) :
        ∃ j p, j < i + 1 ∧ run.Sends x j p ∧ p.source = id ∧ p.sequence = n ∧ p.commitment = bytes := by
      obtain ⟨j, p, hji, hsent⟩ := ih hn
      exact ⟨j, p, Nat.lt_succ_of_lt hji, hsent⟩
    by_cases hstore : (run.chain x (i + 1)).store = (run.chain x i).store
    · rw [record, hstore] at hn
      exact hearlier hn
    cases (turn h x i id).sends with
    | kept hnext hflight => exact hearlier (hflight ▸ hn)
    | opened hnew hnext hflight => exact hearlier (hflight ▸ hn)
    | settled hasked hnext hflight =>
      rw [hflight, Table.get?_erase] at hn
      split at hn
      · cases hn
      · exact hearlier hn
    | @sent p hasked hjoined hnext hnext' hflight hsource =>
      rw [hflight, Table.get?_insert] at hn
      split at hn
      · rename_i hseq
        obtain ⟨handle, hstep⟩ := hasked
        refine ⟨i, p, Nat.lt_succ_self i, ⟨handle, hstep, ?_⟩, hsource, hseq, Option.some.inj hn⟩
        refine Decidable.byContradiction fun hfails => hstore ?_
        rw [chain_succ hstep, if_pos rfl]
        exact Chain.store_of_not_sends hfails
      · exact hearlier hn

/-! ## Receiving -/

theorem mem_hashed (hp : p ∈ run.packets) (hb : bytes ∈ [p.commitmentInput, p.data]) : bytes ∈ run.hashed :=
  List.mem_append_left _ (List.mem_flatMap.2 ⟨p, hp, hb⟩)

theorem CollisionFree.tellsApart (hfree : run.CollisionFree) : run.TellsApart := by
  intro p hp q hq heq
  exact hfree _ (mem_hashed hp List.mem_cons_self) _ (mem_hashed hq List.mem_cons_self) heq

/-- Packets that are committed to alike have the same data. -/
theorem CollisionFree.data_eq (hfree : run.CollisionFree) (hp : p ∈ run.packets) (hq : q ∈ run.packets)
    (heq : p.commitment = q.commitment) : p.data = q.data := by
  have hinput := hfree.tellsApart p hp q hq heq
  exact hfree _ (mem_hashed hp (by simp)) _ (mem_hashed hq (by simp))
    (Packet.digest_data_of_commitmentInput hinput)

/-- A packet that is handed over was sent as it is. -/
theorem HandsOver.sent (h : run.Honest) (hfree : run.CollisionFree) (hhand : run.HandsOver x i p) :
    ∃ j, j < i ∧ run.Sends x.other j p := by
  have hp := hhand.mem_packets h
  obtain ⟨order, hop, hmem⟩ := hhand
  obtain ⟨c, height, hc, hjoined, -, hto, -, ⟨k, hki, -, hvalue⟩, -⟩ :=
    (turn h x i p.destination).of_hand hmem
  obtain ⟨-, hintime, -⟩ := (turn h x i p.destination).hand_in_time hmem
  obtain ⟨j, q, hjk, hsends, hsource, hsequence, hcommitment⟩ := sent_of_commitment h hvalue
  have hji := Nat.lt_of_lt_of_le hjk hki
  -- The end that sent it named the end that takes it.
  have hdestination : q.destination = p.destination := by
    obtain ⟨d, hd, hjoined', hto'⟩ := hsends.sender
    rw [hsource] at hd
    exact Counterparty.ofEnd_inj
      (hto'.symm.trans (named_since h hc hjoined hto (Nat.le_of_lt hji) hd hjoined'))
  have hdue : ¬p.DueAtOnce := by
    intro hdue
    rw [Packet.timedOut_of_dueAtOnce hdue] at hintime
    cases hintime
  have hdata := hfree.data_eq hsends.mem_packets hp hcommitment
  have hinput := hfree.tellsApart q hsends.mem_packets p hp hcommitment
  obtain ⟨hheight, htime⟩ := Packet.deadline_eq hinput hsends.not_dueAtOnce hdue
  have hsame : q = p := by
    cases q
    cases p
    simp_all
  exact ⟨j, hji, hsame ▸ hsends⟩

/-! ## Acknowledging -/

/-- What an end acknowledges of a packet is what its application answered. -/
theorem answer_of_ack (h : run.Honest) (hn : (run.record x i id).acks.get? n = some bytes) :
    ∃ k p ack, k < i ∧ run.Answers x k p ack ∧ p.destination = id ∧ p.sequence = n ∧
      ack.commitment = bytes ∧ ack ∈ sampleAcks := by
  obtain ⟨k, p, order, hop, hki, hmem, hseq, hvalue⟩ := acks_handed h hn
  have hid : p.destination = id := Option.some.inj ((turn h x k id).about hmem)
  subst hid
  obtain ⟨m, hsucceeds, rfl⟩ := succeeds_of_hand h hmem
  obtain ⟨name, app, l', hfind, -, hx, hstore, -⟩ := hsucceeds.executed
  have hanswers : run.Answers x k m.packet (app.receive m.packet).2 :=
    ⟨⟨order, hop, hmem⟩, name, app, hfind, rfl⟩
  have hsample := App.receive_mem_sampleAcks ((standing h x k).applications.find hfind) m.packet
  refine ⟨k, m.packet, _, hki, hanswers, rfl, hseq, ?_, hsample⟩
  rcases Message.Receive.acks_of_execute hx with hsame | hacks
  · rw [happens, hstore, hsame, List.drop_length] at hmem
    cases hmem
  · rw [record, hstore, hacks, Table.get?_insert, if_pos hseq] at hvalue
    exact Option.some.inj hvalue

/-- An acknowledgement that an end accepts is what the application of the other end answered as it was handed a
packet of this end with that number. -/
theorem Accepts.answer (h : run.Honest) (hfree : run.CollisionFree) {m : Message.Acknowledge}
    (haccepts : run.Accepts x i (.acknowledge m)) :
    ∃ k p, k < i ∧ p.source = m.packet.source ∧ p.destination = m.packet.destination ∧
      p.sequence = m.packet.sequence ∧ run.Answers x.other k p m.ack := by
  obtain ⟨-, app, -, hvalid⟩ := haccepts.valid
  obtain ⟨-, c, hc, hstate, hto, hop, hhop, conn, ⟨hconn, -⟩, -, -, -, ⟨-, hverified⟩, -⟩ :=
    Message.Acknowledge.validate_eq_ok.1 hvalid
  have hfit := fits h (standing h x i) haccepts.1
  obtain ⟨j, hji, -, hvalue⟩ := hfit.shown _
    (by simp [Message.evidence, Message.evidence?, Store.joined?_of hc hhop hconn]) hverified
  obtain ⟨k, p, ack, hkj, hanswers, hdestination, hsequence, hcommitment, hsample⟩ := answer_of_ack h hvalue
  have hki := Nat.lt_of_lt_of_le hkj hji
  have hack : ack = m.ack := by
    have hours : m.ack.bytes ∈ run.hashed := by
      refine List.mem_append_right _ (List.mem_map.2 ⟨m.ack, List.mem_append_right _ ?_, rfl⟩)
      exact List.mem_filterMap.2 ⟨_, List.mem_of_getElem? haccepts.1, rfl⟩
    have htheirs : ack.bytes ∈ run.hashed :=
      List.mem_append_right _ (List.mem_map.2 ⟨ack, List.mem_append_left _ hsample, rfl⟩)
    exact congrArg Acknowledgement.mk (hfree _ htheirs _ hours hcommitment)
  subst hack
  -- The end that was handed the packet named this one.
  have hsource : p.source = m.packet.source := by
    obtain ⟨order, hop', hmem⟩ := hanswers.handed
    obtain ⟨d, -, hd, hjoined, -, hfrom, -⟩ := (turn h x.other k p.destination).of_hand hmem
    rw [hdestination] at hd
    exact Counterparty.ofEnd_inj (hfrom.symm.trans
      (named_since h hc (ChannelState.isJoined_of_settling hstate) hto (Nat.le_of_lt hki) hd hjoined))
  exact ⟨k, p, hki, hsource, hdestination, hsequence, hanswers⟩

/-- A packet is handed over as it was sent, and an acknowledgement that is accepted is what the application
answered as it was handed the packet that was sent. -/
theorem nothing_forged (h : run.Honest) (hfree : run.CollisionFree) :
    (∀ x i p, run.HandsOver x i p → ∃ j, j < i ∧ run.Sends x.other j p) ∧
    ∀ x i m, run.Accepts x i (.acknowledge m) → ∃ j k p, j < k ∧ k < i ∧ run.Sends x j p ∧
      p.source = m.packet.source ∧ p.destination = m.packet.destination ∧
      p.sequence = m.packet.sequence ∧ run.Answers x.other k p m.ack ∧
      (p.sequence ≠ .last → ∀ l q, run.Sends x l q → q.source = p.source →
        q.sequence = p.sequence → q = p) := by
  refine ⟨fun x i p hhand => hhand.sent h hfree, fun x i m haccepts => ?_⟩
  obtain ⟨k, p, hki, hsource, hdestination, hsequence, hanswers⟩ := haccepts.answer h hfree
  obtain ⟨j, hjk, hsends⟩ := hanswers.handed.sent h hfree
  rw [Side.other_other] at hsends
  exact ⟨j, k, p, hjk, hki, hsends, hsource, hdestination, hsequence, hanswers,
    fun hlast l q hq hfrom hunder => hsends.unique h hq hfrom hunder hlast⟩

end

/-! ## A packet that is acknowledged -/

section
attribute [local instance] Digest.plain

open Sample (endId packet)

/-- The acknowledgement of the packet 1, on the proof at block 8. -/
def acknowledgement : Message.Acknowledge :=
  ⟨packet 1, successAck, Sample.proofAt 8 (.ack endId .one) successAck.commitment, ⟨0, 8⟩, Sample.signer⟩

theorem becomingOrdered_acknowledges :
    Event.receivePacket (packet 1) .unordered Sample.connectionId ∈ becomingOrdered.happens .b 9 endId ∧
    becomingOrdered.Accepts .a 11 (.acknowledge acknowledgement) := by
  refine ⟨?_, ?_, ?_⟩ <;> decide +kernel

/-- What is handed over to chain `b` was sent by `a`, and what `a` is told of it is what `b` answered. -/
theorem nothing_forged_when_acknowledged :
    (∃ j, j < 9 ∧ becomingOrdered.Sends .a j (packet 1)) ∧
    ∃ j k p, j < k ∧ k < 11 ∧ becomingOrdered.Sends .a j p ∧ p.source = endId ∧ p.destination = endId ∧
      p.sequence = .one ∧ becomingOrdered.Answers .b k p successAck ∧
      (p.sequence ≠ .last → ∀ l q, becomingOrdered.Sends .a l q → q.source = p.source →
        q.sequence = p.sequence → q = p) :=
  have ⟨hhand, haccepts⟩ := becomingOrdered_acknowledges
  have ⟨hsent, hanswered⟩ := nothing_forged (Sample.honest_of_truthful becomingOrdered_facts.1)
    (fun _ _ _ _ heq => heq)
  ⟨hsent .b 9 (packet 1) ⟨_, _, hhand⟩, hanswered .a 11 acknowledgement haccepts⟩

end

end Run

end ChannelLayer
