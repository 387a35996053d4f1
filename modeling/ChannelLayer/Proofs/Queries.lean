import ChannelLayer.Proofs.Intake
import ChannelLayer.Query

/-!
# What relayers are told

A relayer asks which packets an end has not received and which of its own are still in flight, and the answers are
what the handlers will do: a packet is named as unreceived exactly if the handler would take it to the application and
not pass it over (`Store.unreceivedPackets_eq`), and a packet is named as in flight exactly if it was sent and not
settled since (`Course.commitment_iff_pending`). Both hold in every state of a chain, also where upgrades have changed
the ordering (`Course.queries_agree`).
-/

set_option autoImplicit false

namespace ChannelLayer

/-! ## Counters of received packets -/

/-- A joined end counts what it receives, whatever its ordering. -/
def ChannelRecord.Expecting (r : ChannelRecord) : Prop := r.IsJoined → r.nextReceive ≠ none

namespace Turn

variable [Digest] {v : View} {id : EndId} {r r' : ChannelRecord} {es : List Event}

theorem nextReceive_ne_none (h : Turn v id r r' es) (hr : r.nextReceive ≠ none) : r'.nextReceive ≠ none := by
  have hcommit (c : ChannelEnd) (u w : Upgrade) : (r.commit c u w).nextReceive ≠ none := by
    unfold ChannelRecord.commit ChannelRecord.resumeCounting
    split
    · exact Option.some_ne_none _
    · exact hr
  cases h with
  | opened => exact Option.some_ne_none _
  | receivedOrdered => exact Option.some_ne_none _
  | timedOut =>
    rw [ChannelRecord.nextReceive_close]
    exact hr
  | @confirmedLast c u w => exact hcommit c u w
  | @committed c d u w => exact hcommit c u w
  | gaveUp hc hbase => rcases hbase with rfl | ⟨m, nextAck, rfl, -⟩ <;> exact hr
  | _ => exact hr

theorem expecting (h : Turn v id r r' es) (horderly : r.Orderly) (hsending : r.Sending) (hr : r.Expecting) :
    r'.Expecting := by
  rintro ⟨c', hc', hjoined'⟩
  rcases h.of_isJoined horderly hc' hjoined' with hjoined | ⟨-, n, hn⟩ | hopens
  · exact h.nextReceive_ne_none (hr hjoined)
  · exact h.nextReceive_ne_none (hr (hsending.inFlight n hn))
  · rw [hopens.nextReceive]
    exact Option.some_ne_none _

end Turn

theorem Course.expecting [Digest] {course : Course} (h : course.Regular) (i : Nat) (id : EndId) :
    (course.record i id).Expecting := by
  refine record_induction h i id ?_ (fun j hj r' es hturn hr => ?_) fun r hr => hr
  · rintro ⟨c, hc, -⟩
    cases hc
  · exact hturn.expecting (orderly h j id) (sending h j id) hr

/-! ## Handing over and passing over -/

namespace Message.Receive

variable [Digest] {m : Receive} {s : Store} {app : App} {c : ChannelEnd}

/-- Executing the message hands the packet to the application. -/
def handsOver (m : Receive) (l : Ledger) : Bool :=
  match m.execute l with
  | .ok () l' => (l.store.news l'.store m.packet.destination).filterMap Event.handed? = [m.packet]
  | .error _ _ => false

omit [Digest] in
/-- What an end remembers of a packet is written to its record. -/
theorem remember_eq_update {l : Ledger} {order : ChannelOrder} (horder : order ≠ .unspecified)
    (hcounter : order = .ordered → (l.store.record m.packet.destination).nextReceive ≠ none) :
    ∃ f, m.remember order l = .ok () { l with store := l.store.update m.packet.destination f } := by
  cases order with
  | unordered => exact ⟨fun r => { r with receipts := r.receipts.insert m.packet.sequence .received }, rfl⟩
  | ordered =>
    obtain ⟨next, hnext⟩ := Option.ne_none_iff_exists'.1 (hcounter rfl)
    refine ⟨fun r => { r with nextReceive := some next.next }, ?_⟩
    simp [remember, hnext, Store.setNextReceive, and_assoc]
  | unspecified => exact absurd rfl horder

section
variable (hc : (s.record m.packet.destination).channel = some c)

include hc

/-- A packet that was received is passed over in silence. -/
theorem execute_of_received
    (hreceived : s.hasReceived m.packet.destination c.order m.packet.sequence = .ok true) :
    m.execute ⟨s, app⟩ = .ok () ⟨s, app⟩ := by
  simp [execute, hc, hreceived, and_assoc]

theorem handsOver_of_received
    (hreceived : s.hasReceived m.packet.destination c.order m.packet.sequence = .ok true) :
    m.handsOver ⟨s, app⟩ = false := by
  simp [handsOver, execute_of_received hc hreceived, Store.news]

/-- A packet that was not received is handed over. -/
theorem handsOver_of_new {hop : ConnectionId} (hhop : c.hops.head? = some hop) (horder : c.order ≠ .unspecified)
    (hcounter : c.order = .ordered → (s.record m.packet.destination).nextReceive ≠ none)
    (hnew : s.hasReceived m.packet.destination c.order m.packet.sequence = .ok false) :
    m.handsOver ⟨s, app⟩ = true := by
  obtain ⟨f, hremember⟩ := remember_eq_update (m := m) (l := ⟨s, app⟩) horder hcounter
  obtain ⟨l', hx⟩ : ∃ l', m.execute ⟨s, app⟩ = .ok () l' := by
    simp [execute, take, hc, hnew, hremember, hhop, and_assoc]
  have hw : ∃ r, Ledger.Writes ⟨s, app⟩ l' m.packet.destination r [.receivePacket m.packet c.order hop] := by
    simp [execute, take, hc, hnew, hremember, hhop, and_assoc] at hx
    rw [← hx]
    exact ⟨_, ((((((Ledger.Writes.refl _ _).update f).update _).log _).log _).report _ |>.report _).addExtras _⟩
  obtain ⟨r, hw⟩ := hw
  simp [handsOver, hx, hw.news, Event.decides?, Event.handed?]

end

end Message.Receive

/-! ## What has not been received -/

/-- The query and the handler go by the same mark of reception. -/
theorem Store.exists_received {s : Store} {id : EndId} {c : ChannelEnd}
    (hc : (s.record id).channel = some c) (horder : c.order ≠ .unspecified)
    (hcounter : c.order = .ordered → (s.record id).nextReceive ≠ none) :
    ∃ received : Sequence → Bool, (∀ n, s.hasReceived id c.order n = .ok (received n)) ∧
      ∀ sequences, s.unreceivedPackets id sequences = .ok (sequences.filter fun n => !received n) := by
  cases hordering : c.order with
  | unspecified => exact absurd hordering horder
  | unordered =>
    refine ⟨fun n => s.receipt id n = .received, fun n => rfl, fun sequences => ?_⟩
    have hreceipt (n : Sequence) : s.receipt id n = .none ↔ ¬s.receipt id n = .received := by
      cases s.receipt id n <;> simp
    simp [unreceivedPackets, hc, hordering, hreceipt]
  | ordered =>
    obtain ⟨next, hnext⟩ := Option.ne_none_iff_exists'.1 (hcounter hordering)
    refine ⟨fun n => n < next, fun n => ?_, fun sequences => ?_⟩
    · simp [hasReceived, hnext]
    · have hle (n : Sequence) : next ≤ n ↔ ¬n < next := by rw [← Sequence.not_le, Decidable.not_not]
      simp [unreceivedPackets, hc, hordering, hnext, hle]

section
variable [Digest] {s : Store} {app : App} {id : EndId} {c : ChannelEnd} {hop : ConnectionId}
  (hc : (s.record id).channel = some c) (hhop : c.hops.head? = some hop) (horder : c.order ≠ .unspecified)
  (hcounter : c.order = .ordered → (s.record id).nextReceive ≠ none)

include hc hhop horder hcounter

/-- The packets that are named as unreceived are those that the handler would hand over. It would pass over all
others. -/
theorem Store.unreceivedPackets_eq {message : Sequence → Message.Receive}
    (hsequence : ∀ n, (message n).packet.sequence = n) (hdestination : ∀ n, (message n).packet.destination = id) :
    (∀ sequences, s.unreceivedPackets id sequences =
      .ok (sequences.filter fun n => (message n).handsOver ⟨s, app⟩)) ∧
    ∀ n, (message n).handsOver ⟨s, app⟩ = false → (message n).execute ⟨s, app⟩ = .ok () ⟨s, app⟩ := by
  obtain ⟨received, hreceived, hquery⟩ := Store.exists_received hc horder hcounter
  have hmessage (n : Sequence) :
      s.hasReceived (message n).packet.destination c.order (message n).packet.sequence = .ok (received n) := by
    rw [hsequence, hdestination]
    exact hreceived n
  have hend (n : Sequence) : (s.record (message n).packet.destination).channel = some c := by
    rw [hdestination]
    exact hc
  have hcount (n : Sequence) (hordered : c.order = .ordered) :
      (s.record (message n).packet.destination).nextReceive ≠ none := by
    rw [hdestination]
    exact hcounter hordered
  have hanswer (n : Sequence) : (message n).handsOver ⟨s, app⟩ = !received n := by
    have hn := hmessage n
    cases hmark : received n with
    | true => exact Message.Receive.handsOver_of_received (hend n) (hmark ▸ hn)
    | false => exact Message.Receive.handsOver_of_new (hend n) hhop horder (hcount n) (hmark ▸ hn)
  constructor
  · intro sequences
    rw [hquery]
    exact congrArg Except.ok (List.filter_congr fun n _ => (hanswer n).symm)
  · intro n hn
    have hmark : received n = true := by
      rw [hanswer] at hn
      simpa using hn
    exact Message.Receive.execute_of_received (hend n) (hmark ▸ hmessage n)

end

/-! ## What is in flight -/

namespace Store

theorem exists_commitment {s : Store} {id : EndId} {n : Sequence} :
    (∃ bytes, s.commitment id n = .ok bytes) ↔ (s.record id).commitments.get? n ≠ none := by
  unfold commitment
  cases (s.record id).commitments.get? n <;> simp

/-- The packets that are named as in flight are those whose commitment is kept. -/
theorem unreceivedAcks_eq (s : Store) (id : EndId) (sequences : List Sequence) :
    s.unreceivedAcks id sequences = sequences.filter fun n => (s.commitment id n).isOk := by
  refine List.filter_congr fun n _ => ?_
  have hkept : n ∈ s.inFlight id ↔ (s.record id).commitments.get? n ≠ none := by
    rw [inFlight, List.mem_mergeSort, Table.mem_keys]
  rw [Bool.eq_iff_iff, List.contains_iff_mem, hkept, ← exists_commitment]
  cases s.commitment id n <;> simp [Except.isOk, Except.toBool]

end Store

namespace Course

section
variable [Digest] {course : Course} {i : Nat} {id : EndId} {n : Sequence}

/-- The end has sent a packet with this number before deed `i`, and has settled none with it since. -/
def Pending (course : Course) (i : Nat) (id : EndId) (n : Sequence) : Prop :=
  ∃ j p, j < i ∧ course.sends? id j = some p ∧ p.sequence = n ∧
    ∀ k, j < k → k < i → course.settles? id k ≠ some n

/-- A packet is pending that has just been sent, or was and has not just been settled. -/
theorem pending_succ : course.Pending (i + 1) id n ↔
    (∃ p, course.sends? id i = some p ∧ p.sequence = n) ∨
      course.Pending i id n ∧ course.settles? id i ≠ some n := by
  constructor
  · rintro ⟨j, p, hj, hsends, hp, hunsettled⟩
    rcases Nat.lt_succ_iff_lt_or_eq.1 hj with hlt | rfl
    · exact .inr ⟨⟨j, p, hlt, hsends, hp, fun k hjk hk => hunsettled k hjk (Nat.lt_succ_of_lt hk)⟩,
        hunsettled i hlt (Nat.lt_succ_self i)⟩
    · exact .inl ⟨p, hsends, hp⟩
  · rintro (⟨p, hsends, hp⟩ | ⟨⟨j, p, hlt, hsends, hp, hunsettled⟩, hnow⟩)
    · exact ⟨i, p, Nat.lt_succ_self i, hsends, hp, fun k hik hk => by omega⟩
    · refine ⟨j, p, Nat.lt_succ_of_lt hlt, hsends, hp, fun k hjk hk => ?_⟩
      rcases Nat.lt_succ_iff_lt_or_eq.1 hk with hbefore | rfl
      · exact hunsettled k hjk hbefore
      · exact hnow

/-- The commitment of a packet is kept as long as the packet is pending. -/
theorem commitment_iff_pending (h : course.Regular) :
    (course.record i id).commitments.get? n ≠ none ↔ course.Pending i id n := by
  induction i with
  | zero =>
    rw [record_zero h]
    refine iff_of_false (fun hn => hn rfl) ?_
    rintro ⟨j, p, hj, -⟩
    exact Nat.not_lt_zero j hj
  | succ i ih =>
    rw [pending_succ, ← ih]
    cases entry (standing h i) id with
    | kept hsent hsettled hnext hflight => simp [hsent, hsettled, hflight]
    | opened hsent hsettled hnew hnext hflight => simp [hsent, hsettled, hflight]
    | @sent p hsent hsettled hnext hnext' hflight =>
      simp only [hsent, hsettled, hflight, Table.get?_insert, Option.some.injEq, exists_eq_left', ne_eq,
        reduceCtorEq, not_false_eq_true, and_true]
      by_cases hp : p.sequence = n <;> simp [hp]
    | @settled m hsent hsettled hbefore hnext hflight =>
      simp only [hsent, hsettled, hflight, Table.get?_erase, Option.some.injEq, reduceCtorEq, false_and, exists_false,
        false_or, ne_eq]
      by_cases hm : m = n <;> simp [hm]

/-- In every state of a chain, the packets that a joined end is told not to have received are those that the handler
would hand over and not pass over, and those that it is told to have in flight are those whose commitment is kept,
which are those that it has sent and not settled since. -/
theorem queries_agree (h : course.Regular) {c : ChannelEnd} (hc : (course.record i id).channel = some c)
    (hjoined : c.state.isJoined = true) :
    (∀ (app : App) (message : Sequence → Message.Receive), (∀ n, (message n).packet.sequence = n) →
      (∀ n, (message n).packet.destination = id) →
      (∀ sequences, (course.chain i).store.unreceivedPackets id sequences =
        .ok (sequences.filter fun n => (message n).handsOver ⟨(course.chain i).store, app⟩)) ∧
      ∀ n, (message n).handsOver ⟨(course.chain i).store, app⟩ = false →
        (message n).execute ⟨(course.chain i).store, app⟩ = .ok () ⟨(course.chain i).store, app⟩) ∧
    (∀ sequences, (course.chain i).store.unreceivedAcks id sequences =
      sequences.filter fun n => ((course.chain i).store.commitment id n).isOk) ∧
    ∀ n, (∃ bytes, (course.chain i).store.commitment id n = .ok bytes) ↔ course.Pending i id n := by
  have horder := (specified h i id).channel c hc
  have hcounter : (course.record i id).nextReceive ≠ none := expecting h i id ⟨c, hc, hjoined⟩
  obtain ⟨hop, hhop⟩ : ∃ hop, c.hops.head? = some hop := by
    have hone := (orderly h i id).oneHop c hc
    obtain ⟨hop, hhops⟩ := List.length_eq_one_iff.1 hone
    exact ⟨hop, by rw [hhops]; rfl⟩
  refine ⟨fun app message hsequence hdestination => ?_, Store.unreceivedAcks_eq _ id, fun n => ?_⟩
  · exact Store.unreceivedPackets_eq hc hhop horder (fun _ => hcounter) hsequence hdestination
  · exact Store.exists_commitment.trans (commitment_iff_pending h)

end

/-! ## A relayer's questions -/

section
attribute [local instance] Digest.plain

open Sample (endId packet)

/-- Chain `a` opens an ordered channel, receives a packet and sends two, the first of which is acknowledged. -/
def relayed : Course :=
  Sample.alone [6, 8] (Sample.opening .ordered 6 7 ++
    [Sample.gets .a (.receive taken), Step.mk .a (.send ⟨1⟩ (packet 1)), Step.mk .a (.send ⟨1⟩ (packet 2)),
      Sample.gets .a (.acknowledge ⟨packet 1, successAck, Sample.proofAt 8 (.ack endId .one)
        successAck.commitment, ⟨0, 8⟩, Sample.signer⟩)])

/-- What a relayer would deliver of the packet `n`. -/
def relays (n : Sequence) : Message.Receive := { taken with packet := packet n.number }

theorem relayed_facts : (∀ i, i < relayed.deeds.length →
      (relayed.chain i).store.channelCounter ≠ lastChannel) ∧
    (relayed.record 8 endId).channel = some (Sample.channel .opened .ordered 0) ∧
    (relayed.chain 8).store.unreceivedPackets endId [.one, ⟨2⟩, .one, ⟨3⟩] = .ok [⟨2⟩, ⟨3⟩] ∧
    (relayed.chain 8).store.unreceivedAcks endId [⟨2⟩, .one, ⟨2⟩] = [⟨2⟩, ⟨2⟩] := by
  decide +kernel

/-- The packet 2 is named, and it would be handed over and is in flight; the packet 1 is not, and it would be passed
over and is settled. -/
theorem queries_agree_when_relayed :
    (relays ⟨2⟩).handsOver ⟨(relayed.chain 8).store, .dummy {}⟩ = true ∧
    (relays .one).execute ⟨(relayed.chain 8).store, .dummy {}⟩ = .ok () ⟨(relayed.chain 8).store, .dummy {}⟩ ∧
    relayed.Pending 8 endId ⟨2⟩ ∧ ¬relayed.Pending 8 endId .one := by
  obtain ⟨hnumbering, hc, hpackets, hacks⟩ := relayed_facts
  have hregular : relayed.Regular := Sample.regular_of_numbering hnumbering
  obtain ⟨hreceive, hquery, hpending⟩ := queries_agree hregular hc rfl
  obtain ⟨hhands, hpasses⟩ := hreceive (.dummy {}) relays (fun _ => rfl) fun _ => rfl
  rw [hhands, Except.ok.injEq] at hpackets
  rw [hquery] at hacks
  have hnamed (n : Sequence) (hn : n ∈ [.one, ⟨2⟩, .one, ⟨3⟩]) :
      (relays n).handsOver ⟨(relayed.chain 8).store, .dummy {}⟩ = true ↔ n ∈ [⟨2⟩, ⟨3⟩] := by
    rw [← hpackets, List.mem_filter, and_iff_right hn]
  have hkept (n : Sequence) (hn : n ∈ [⟨2⟩, .one, ⟨2⟩]) : relayed.Pending 8 endId n ↔ n ∈ [⟨2⟩, ⟨2⟩] := by
    rw [← hpending, ← hacks, List.mem_filter, and_iff_right hn]
    cases (relayed.chain 8).store.commitment endId n <;> simp [Except.isOk, Except.toBool]
  refine ⟨(hnamed _ (by decide)).2 (by decide), hpasses _ ?_, (hkept _ (by decide)).2 (by decide), fun hone => ?_⟩
  · rw [← Bool.not_eq_true, hnamed _ (by decide)]
    decide
  · exact absurd ((hkept _ (by decide)).1 hone) (by decide)

end

end Course

end ChannelLayer
