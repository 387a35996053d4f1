import ChannelLayer.Proofs.Handles
import ChannelLayer.Proofs.Queries

/-!
# Sequence numbers are used once

A packet is sent under the number that the counter of its end stands at, an ordered end takes the packet that its
counter waits for, and both counters then go on to the next number. Whatever a chain holds to begin with and
whatever its applications are, in no deed does a counter go back (`Course.countsOn_succ`), so that no number below
the last one is used again, for as long as no channel is opened in the place of the end. At the last number the
counters stand still, and it is used as often as one likes (`Course.used_again_iff`).
-/

set_option autoImplicit false

namespace ChannelLayer

/-! ## Counters -/

namespace Sequence

variable {n m : Sequence} {counter counter' : Option Sequence}

theorem lt_iff_of_next_le (h : n.next ≤ m) : n < m ↔ n ≠ last :=
  ⟨ne_last_of_lt, fun hbelow => lt_of_lt_of_le (lt_next hbelow) h⟩

/-- What is no lower than the next number is this one only where there is no next one. -/
theorem eq_iff_of_next_le (h : n.next ≤ m) : m = n ↔ n = last := by
  constructor
  · rintro rfl
    exact Decidable.byContradiction fun hbelow => lt_irrefl _ ((lt_iff_of_next_le h).2 hbelow)
  · rintro rfl
    rw [next_last] at h
    exact eq_of_not_lt (fun hlt => not_le.2 hlt h) fun hlt => ne_last_of_lt hlt rfl

/-- The counter does not go back. -/
def Grows (counter counter' : Option Sequence) : Prop :=
  ∀ n, counter = some n → ∃ n', counter' = some n' ∧ n ≤ n'

/-- The counter stands at the number after `n` or at a later one, as far as there are numbers. -/
def Passed (counter : Option Sequence) (n : Sequence) : Prop :=
  ∃ next, counter = some next ∧ n.next ≤ next

theorem Grows.of_eq (h : counter' = counter) : Grows counter counter' :=
  fun n hn => ⟨n, h.trans hn, UInt64.le_refl _⟩

theorem Passed.of_grows (h : Passed counter n) (hgrows : Grows counter counter') : Passed counter' n := by
  obtain ⟨next, hnext, hle⟩ := h
  obtain ⟨next', hnext', hle'⟩ := hgrows next hnext
  exact ⟨next', hnext', le_trans hle hle'⟩

/-- A counter that is past a number stands at it only if the number is the last one. -/
theorem Passed.eq_some_iff (h : Passed counter n) : counter = some n ↔ n = last := by
  obtain ⟨next, rfl, hle⟩ := h
  rw [Option.some_inj]
  exact eq_iff_of_next_le hle

end Sequence

namespace ChannelRecord

/-- From `r` to `r'` a joined end stays one, its counters do not go back, as far as an ordered end counts what it
receives, and what is put in flight is the packet that is next. -/
structure CountsOn (r r' : ChannelRecord) : Prop where
  joined : r.IsJoined → r'.IsJoined
  sent : r.IsJoined → Sequence.Grows r.nextSend r'.nextSend
  received : r.IsJoined → r.channel.map ChannelEnd.order = some .ordered →
    Sequence.Grows r.nextReceive r'.nextReceive
  inFlight : ∀ n, r.nextSend ≠ some n →
    r'.commitments.get? n = r.commitments.get? n ∨ r'.commitments.get? n = none

variable {r r' : ChannelRecord}

/-- What leaves the counters and the packets in flight as they are. -/
theorem CountsOn.of_kept (hjoined : r.IsJoined → r'.IsJoined) (hsend : r'.nextSend = r.nextSend)
    (hreceive : r'.nextReceive = r.nextReceive) (hflight : r'.commitments = r.commitments) :
    r.CountsOn r' where
  joined := hjoined
  sent _ := .of_eq hsend
  received _ _ := .of_eq hreceive
  inFlight n _ := .inl (by rw [hflight])

theorem CountsOn.refl (r : ChannelRecord) : r.CountsOn r := .of_kept id rfl rfl rfl

end ChannelRecord

/-! ## The step -/

section
variable [Digest] {v : View} {id : EndId} {r r' : ChannelRecord} {es : List Event}

theorem Turn.nextReceive_grows (h : Turn v id r r' es) (hjoined : r.IsJoined)
    (horder : r.channel.map ChannelEnd.order = some .ordered) :
    Sequence.Grows r.nextReceive r'.nextReceive := by
  intro n hn
  obtain ⟨c, hc, horder⟩ := Option.map_eq_some_iff.1 horder
  rcases h.intake.of_ordered (fun _ => hjoined) hc horder with
    ⟨-, hsame | ⟨hnone, -⟩⟩ | ⟨p, -, hnext, hnext'⟩
  · exact ⟨n, hsame.trans hn, UInt64.le_refl _⟩
  · rw [hnone] at hn
    cases hn
  · obtain rfl := Option.some.inj (hnext.symm.trans hn)
    exact ⟨_, hnext', Sequence.le_next _⟩

theorem Turn.countsOn (h : Turn v id r r' es) : r.CountsOn r' where
  joined := h.isJoined
  sent hjoined _ hn := h.nextSend_le hjoined hn
  received hjoined horder := h.nextReceive_grows hjoined horder
  inFlight n hn := by
    cases h.sends with
    | kept hnext hflight => exact .inl (by rw [hflight])
    | @settled k hasked hnext hflight =>
      rw [hflight, Table.get?_erase]
      split
      · exact .inr rfl
      · exact .inl rfl
    | opened hnew hnext hflight => exact .inl (by rw [hflight])
    | @sent p hasked hjoined hnext hnext' hflight =>
      have hne : p.sequence ≠ n := fun heq => hn (heq ▸ hnext)
      exact .inl (by rw [hflight, Table.get?_insert, if_neg hne])

end

/-- From `l` to `l'` only the end `id` was written, and it counts on. -/
def Ledger.CountsOn (l l' : Ledger) (id : EndId) : Prop :=
  ∃ r es, l.Writes l' id r es ∧ (l.store.record id).CountsOn r

theorem Ledger.TakesTurn.countsOn [Digest] {v : View} {l l' : Ledger} {id : EndId}
    (h : Ledger.TakesTurn v id l l') : l.CountsOn l' id := by
  obtain ⟨r, es, hw, hturn⟩ := h
  exact ⟨r, es, hw, hturn.countsOn⟩

theorem Ledger.CountsOn.record {l l' : Ledger} {id : EndId} (h : l.CountsOn l' id) (id' : EndId) :
    (l.store.record id').CountsOn (l'.store.record id') := by
  obtain ⟨r, es, hw, hcounts⟩ := h
  rw [hw.record]
  split
  · rename_i hid
    exact hid ▸ hcounts
  · exact .refl _

namespace Message

variable [Digest] {v : View} {host : Host} {s : Store} {app : App} {l' : Ledger}

/-- An answer leaves the counters alone, whatever version the application gives. -/
theorem UpgradeTry.countsOn {m : UpgradeTry} (hv : m.validate host s = .ok ())
    (hx : m.execute host ⟨s, app⟩ = .ok () l') : Ledger.CountsOn ⟨s, app⟩ l' m.id := by
  obtain ⟨-, -, c, hc, -⟩ := validate_eq_ok.1 hv
  have hgivesUp {c' : ChannelEnd} {e : UpgradeError}
      (hx : Exec.abortUpgrade m.id c' e ⟨s, app⟩ = .ok () l') : Ledger.CountsOn ⟨s, app⟩ l' m.id :=
    ⟨_, _, (Ledger.Writes.refl ⟨s, app⟩ m.id).abortUpgrade hx,
      .of_kept (fun _ => ⟨_, rfl, rfl⟩) rfl rfl rfl⟩
  cases UpgradeTry.outcome hc hx with
  | refused hinit hle hx =>
    exact ⟨_, _, (Ledger.Writes.refl ⟨s, app⟩ m.id).writeReceipt hx, .of_kept (fun h => h) rfl rfl rfl⟩
  | tied hverdict hx => exact hgivesUp hx
  | gaveUp hnewer hverdict htie hobjects hx => exact hgivesUp hx
  | answered hnewer hverdict htie hcause hreply hx =>
    obtain ⟨nextSend, -, hw⟩ := accept_writes hx
    exact ⟨_, _, hw, .of_kept (fun _ => ⟨_, rfl, rfl⟩) rfl rfl rfl⟩

/-- A message that opens no channel has its end count on, whatever the application does. -/
theorem countsOn {m : Message} (hm : m.opens = false) (hfit : v.Fits host s m)
    (hv : m.validate host s app = .ok ()) (hx : m.execute host ⟨s, app⟩ = .ok () l') :
    ∃ id, Ledger.CountsOn ⟨s, app⟩ l' id := by
  cases m with
  | openInit m => cases hm
  | openTry m => cases hm
  | openAck m => exact ⟨_, (OpenAck.turn hfit hv hx).countsOn⟩
  | openConfirm m => exact ⟨_, (OpenConfirm.turn hfit hv hx).countsOn⟩
  | closeInit m => exact ⟨_, (CloseInit.turn (v := v) hv hx).countsOn⟩
  | closeConfirm m => exact ⟨_, (CloseConfirm.turn (v := v) hv hx).countsOn⟩
  | receive m => exact ⟨_, (Receive.turn hfit hv hx).countsOn⟩
  | acknowledge m => exact ⟨_, (Acknowledge.settles hfit hv hx).takesTurn.countsOn⟩
  | timeout m => exact ⟨_, (Timeout.settles hfit hv hx).takesTurn.countsOn⟩
  | timeoutOnClose m => exact ⟨_, (TimeoutOnClose.settles hfit hv hx).takesTurn.countsOn⟩
  | upgradeInit m => exact ⟨_, (UpgradeInit.turn hfit hv hx).countsOn⟩
  | upgradeTry m => exact ⟨_, UpgradeTry.countsOn hv hx⟩
  | upgradeAck m => exact ⟨_, (UpgradeAck.turn hfit hv hx).countsOn⟩
  | upgradeConfirm m => exact ⟨_, (UpgradeConfirm.turn hfit hv hx).countsOn⟩
  | upgradeOpen m => exact ⟨_, (UpgradeOpen.turn hfit hv hx).countsOn⟩
  | upgradeCancel m => exact ⟨_, (UpgradeCancel.turn hfit hv hx).countsOn⟩
  | upgradeExpire m => exact ⟨_, (UpgradeExpire.turn hfit hv hx).countsOn⟩

end Message

namespace Course

variable [Digest] {course : Course} {i j : Nat} {id : EndId}

/-- An end that no message opens anew counts on, whatever is done. -/
theorem countsOn_succ (hnot : ¬course.Opens i id) :
    (course.record i id).CountsOn (course.record (i + 1) id) := by
  cases hdeed : course.deeds[i]? with
  | none =>
    rw [record, record, chain_over hdeed]
    exact .refl _
  | some deed =>
    rw [record, record, chain_succ hdeed]
    cases (course.chain i).effect deed with
    | idle hstore =>
      rw [hstore]
      exact .refl _
    | @delivered m app l' hm htakes hv hx hstore =>
      subst hm
      rw [hstore]
      cases hopens : m.opens with
      | true =>
        have hid : id ≠ ⟨m.port, (course.chain i).store.nextChannelId⟩ :=
          fun hid => hnot ⟨m, ⟨hdeed, htakes⟩, hopens, hid⟩
        rw [(Message.founds hopens hx).others id hid]
        exact .refl _
      | false =>
        obtain ⟨id', hcounts⟩ := Message.countsOn hopens (fits hdeed) hv hx
        exact hcounts.record id
    | @sent handle p hp hv hx =>
      subst hp
      obtain ⟨r, es, hw, hturn⟩ := p.send_turn (v := course.view i) ⟨handle, hdeed⟩ hv hx
      rw [hw.record]
      split
      · rename_i hid
        exact hid ▸ hturn.countsOn
      · exact .refl _
    | released hstore =>
      rw [hstore, Store.record_update]
      split
      · rename_i hid
        subst hid
        exact .of_kept (fun h => h) rfl rfl rfl
      · exact .refl _

end Course

/-! ## A number that was used -/

namespace ChannelRecord

variable {r r' : ChannelRecord} {p : Packet} {n : Sequence}

/-- The end has sent the packet: it numbers what it sends from the next number on, and what it still has in
flight under the number of the packet, which is not the last one, is the packet. -/
structure HasSent [Digest] (r : ChannelRecord) (p : Packet) : Prop where
  joined : r.IsJoined
  counter : Sequence.Passed r.nextSend p.sequence
  inFlight : p.sequence ≠ .last → ∀ bytes, r.commitments.get? p.sequence = some bytes → bytes = p.commitment

/-- The end, which is ordered, has received the packet `n`: it waits for the next one or a later one. -/
structure HasPassed (r : ChannelRecord) (n : Sequence) : Prop where
  joined : r.IsJoined
  counter : Sequence.Passed r.nextReceive n

/-- An end that counts on remembers what it has sent. -/
theorem HasSent.of_countsOn [Digest] (h : r.HasSent p) (hcounts : r.CountsOn r') : r'.HasSent p := by
  refine ⟨hcounts.joined h.joined, h.counter.of_grows (hcounts.sent h.joined), fun hbelow bytes hbytes => ?_⟩
  have hne : r.nextSend ≠ some p.sequence := fun hnext => hbelow (h.counter.eq_some_iff.1 hnext)
  rcases hcounts.inFlight p.sequence hne with hkept | hnone
  · exact h.inFlight hbelow bytes (hkept ▸ hbytes)
  · rw [hnone] at hbytes
    cases hbytes

/-- An ordered end that counts on remembers what it has received. -/
theorem HasPassed.of_countsOn (h : r.HasPassed n) (horder : r.channel.map ChannelEnd.order = some .ordered)
    (hcounts : r.CountsOn r') : r'.HasPassed n :=
  ⟨hcounts.joined h.joined, h.counter.of_grows (hcounts.received h.joined horder)⟩

end ChannelRecord

/-- An ordered end takes a packet that it has received for a new one only if no number is above it. -/
theorem Store.hasReceived_of_hasPassed {s : Store} {id : EndId} {n : Sequence} (h : (s.record id).HasPassed n) :
    s.hasReceived id .ordered n = .ok (decide (n ≠ .last)) := by
  obtain ⟨next, hnext, hle⟩ := h.counter
  simp [Store.hasReceived, hnext, Sequence.lt_iff_of_next_le hle]

/-! ## What is refused because of its number -/

/-- A packet may be sent if it could be sent were it the next one, and is the next one. -/
theorem Packet.validateSend_iff {p : Packet} {host : Host} {s : Store} {handle : Capability} :
    p.validateSend host s handle = .ok () ↔ (s.record p.source).nextSend = some p.sequence ∧
      p.validateSend host (s.setNextSend p.source p.sequence) handle = .ok () := by
  have hconnections : (s.setNextSend p.source p.sequence).connections = s.connections := rfl
  have hrecord : (s.setNextSend p.source p.sequence).record p.source =
      { s.record p.source with nextSend := some p.sequence } := by simp [Store.setNextSend]
  have hauth : (s.setNextSend p.source p.sequence).authenticates handle p.source =
      s.authenticates handle p.source := by rw [Store.authenticates, Store.authenticates, hrecord]
  rw [validateSend_eq_ok, validateSend_eq_ok, hrecord, hconnections, hauth]
  constructor
  · rintro ⟨hcheck, c, hc, hsending, hheld, hto, hop, hhop, conn, hconn, height, hheight, time, htime,
      hintime, hnext⟩
    exact ⟨hnext, hcheck, c, hc, hsending, hheld, hto, hop, hhop, conn, hconn, height, hheight, time, htime,
      hintime, rfl⟩
  · rintro ⟨hnext, hcheck, c, hc, hsending, hheld, hto, hop, hhop, conn, hconn, height, hheight, time,
      htime, hintime, -⟩
    exact ⟨hcheck, c, hc, hsending, hheld, hto, hop, hhop, conn, hconn, height, hheight, time, htime,
      hintime, hnext⟩

namespace Message.Receive

variable [Digest] {m : Receive} {host : Host} {s : Store} {app : App} {c : ChannelEnd}

theorem executes_of_handsOver {l : Ledger} (h : m.handsOver l = true) : ∃ l', m.execute l = .ok () l' := by
  unfold handsOver at h
  split at h
  · rename_i l' hx
    exact ⟨l', hx⟩
  · cases h

/-- A packet that an ordered end receives, new or not, is one that it has received. -/
theorem hasPassed_of_execute {l' : Ledger} (hv : m.validate host s = .ok ())
    (hc : (s.record m.packet.destination).channel = some c) (horder : c.order = .ordered)
    (hx : m.execute ⟨s, app⟩ = .ok () l') :
    (l'.store.record m.packet.destination).HasPassed m.packet.sequence := by
  obtain ⟨-, c', hc', hstate, -, -, -, -, -, -, -, -, -, hcheck⟩ := validate_eq_ok.1 hv
  obtain rfl := Option.some.inj (hc.symm.trans hc')
  obtain ⟨-, next, hnext, hgap⟩ := (checkOrder_eq_ok.1 hcheck).resolve_left (by simp [horder])
  simp [execute, take, remember, Store.hasReceived, and_assoc, hc, horder, hnext] at hx
  rcases hx with ⟨hnew, hop, -, rfl⟩ | ⟨hold, rfl⟩
  · have hseq : m.packet.sequence = next := Sequence.eq_of_not_lt hnew hgap
    refine ⟨⟨c, ?_, ChannelState.isJoined_of_receiving hstate⟩, next.next, ?_, ?_⟩
    · simp [Store.setNextReceive, Store.addAck, hc]
    · simp [Store.setNextReceive, Store.addAck]
    · rw [hseq]
      exact UInt64.le_refl _
  · exact ⟨⟨c, hc, ChannelState.isJoined_of_receiving hstate⟩, next, hnext, Sequence.next_le_of_lt hold⟩

section
variable (hc : (s.record m.packet.destination).channel = some c) (horder : c.order = .ordered)
  (h : (s.record m.packet.destination).HasPassed m.packet.sequence)

include hc horder h

/-- Below the last number, a packet that an ordered end has received is passed over in silence. -/
theorem execute_of_hasPassed (hbelow : m.packet.sequence ≠ .last) :
    m.execute ⟨s, app⟩ = .ok () ⟨s, app⟩ := by
  have hreceived := Store.hasReceived_of_hasPassed h
  rw [decide_eq_true hbelow, ← horder] at hreceived
  exact execute_of_received hc hreceived

/-- A packet that an ordered end has received and that is accepted again is handed over only if its number is the
last one. -/
theorem handsOver_iff_of_hasPassed (hv : m.validate host s = .ok ()) :
    m.handsOver ⟨s, app⟩ = true ↔ m.packet.sequence = .last := by
  by_cases hlast : m.packet.sequence = .last
  · have hnew := Store.hasReceived_of_hasPassed h
    rw [decide_eq_false (not_not_intro hlast), ← horder] at hnew
    obtain ⟨-, c', hc', -, -, -, hop, hhop, -⟩ := validate_eq_ok.1 hv
    obtain rfl := Option.some.inj (hc.symm.trans hc')
    obtain ⟨next, hnext, -⟩ := h.counter
    have hcounter : c.order = .ordered → (s.record m.packet.destination).nextReceive ≠ none :=
      fun _ => by simp [hnext]
    exact iff_of_true (handsOver_of_new hc hhop (by simp [horder]) hcounter hnew) hlast
  · refine iff_of_false (fun hhands => ?_) hlast
    simp [handsOver, execute_of_hasPassed hc horder h hlast, Store.news] at hhands

end

end Message.Receive

namespace Chain

variable [Digest] {c : Chain}

theorem sends_iff {handle : Capability} {p : Packet} :
    c.sends handle p = true ↔ p.validateSend c.host c.store handle = .ok () := by
  refine ⟨fun h => (store_of_sends h).1, fun hv => ?_⟩
  obtain ⟨s', hx⟩ := Packet.executeSend_ok hv
  simp [sends, send_eq, hv, onStore, hx]

/-- Delivering the message has its packet handed to the application. -/
def calls (c : Chain) (m : Message.Receive) : Bool :=
  match c.router.find m.packet.destination.port with
  | .ok (_, app) => decide (m.validate c.host c.store = .ok ()) && m.handsOver ⟨c.store, app⟩
  | .error _ => false

theorem calls_iff {m : Message.Receive} : c.calls m = true ↔
    ∃ name app, c.router.find m.packet.destination.port = .ok (name, app) ∧
      m.validate c.host c.store = .ok () ∧ m.handsOver ⟨c.store, app⟩ = true := by
  unfold calls
  split
  · rename_i name app hfind
    rw [Bool.and_eq_true, decide_eq_true_eq]
    constructor
    · rintro ⟨hv, hhands⟩
      exact ⟨name, app, hfind, hv, hhands⟩
    · rintro ⟨name', app', hfind', hv, hhands⟩
      obtain ⟨rfl, rfl⟩ := Prod.mk.inj (Except.ok.inj (hfind.symm.trans hfind'))
      exact ⟨hv, hhands⟩
  · rename_i e hfind
    simp [hfind]

/-- A packet with the number of one that its end has sent can be sent only if the number is the last one. -/
theorem sends_iff_of_hasSent {handle : Capability} {p q : Packet} (h : (c.store.record p.source).HasSent p)
    (hsource : q.source = p.source) (hseq : q.sequence = p.sequence) :
    c.sends handle q = true ↔ p.sequence = .last ∧
      q.validateSend c.host (c.store.setNextSend p.source p.sequence) handle = .ok () := by
  rw [sends_iff, Packet.validateSend_iff, hsource, hseq, h.counter.eq_some_iff]

/-- A packet with the number of one that its ordered end has received is handed over only if the number is the
last one. -/
theorem calls_iff_of_hasPassed {m : Message.Receive} {e : ChannelEnd}
    (he : (c.store.record m.packet.destination).channel = some e) (horder : e.order = .ordered)
    (h : (c.store.record m.packet.destination).HasPassed m.packet.sequence) :
    c.calls m = true ↔ m.packet.sequence = .last ∧ c.takes (.receive m) = true := by
  rw [calls_iff]
  constructor
  · rintro ⟨name, app, hfind, hv, hhands⟩
    obtain ⟨l', hx⟩ := Message.Receive.executes_of_handsOver hhands
    exact ⟨(Message.Receive.handsOver_iff_of_hasPassed he horder h hv).1 hhands,
      (takes_of_executes (m := .receive m) hfind hv hx).1⟩
  · rintro ⟨hlast, htakes⟩
    obtain ⟨name, app, l', hfind, hv, -, -⟩ := after_of_takes htakes
    exact ⟨name, app, hfind, hv, (Message.Receive.handsOver_iff_of_hasPassed he horder h hv).2 hlast⟩

end Chain

/-! ## Over a stretch of a course -/

namespace Course

section
variable [Digest] (course : Course) (i j : Nat) (id : EndId)

instance (handle : Capability) (p : Packet) : Decidable (course.Sends i handle p) :=
  inferInstanceAs (Decidable (_ ∧ _))

/-- Between the deeds `i` and `j` no channel is opened in the place of the end `id`. -/
def Stays : Prop := ∀ k, i < k → k < j → ¬course.Opens k id

/-- From deed `i` to deed `j` the end `id` is ordered. -/
def StaysOrdered : Prop :=
  ∀ k, i ≤ k → k ≤ j → (course.record k id).channel.map ChannelEnd.order = some .ordered

end

section
variable [Digest] {course : Course} {i j : Nat} {id : EndId}

/-- On a chain that was new, no channel is opened in the place of an end that is there. -/
theorem stays_of_regular (h : course.Regular) (hborn : (course.record i id).channel ≠ none) (j : Nat) :
    course.Stays i j id := by
  rintro k hik - ⟨m, -, -, rfl⟩
  exact hborn (unborn h (Nat.le_of_lt hik) m.port)

/-- What counting on preserves is kept from just after deed `i` up to deed `j`. -/
theorem Stays.induction {P : ChannelRecord → Prop} (hstays : course.Stays i j id) (hij : i < j)
    (hstart : P (course.record (i + 1) id))
    (hstep : ∀ k, i < k → k < j → (course.record k id).CountsOn (course.record (k + 1) id) →
      P (course.record k id) → P (course.record (k + 1) id)) : P (course.record j id) := by
  induction hij with
  | refl => exact hstart
  | @step k hik ih =>
    have hbefore : P (course.record k id) :=
      ih (fun l hil hlk => hstays l hil (Nat.lt_succ_of_lt hlk))
        fun l hil hlk => hstep l hil (Nat.lt_succ_of_lt hlk)
    exact hstep k hik (Nat.lt_succ_self k) (countsOn_succ (hstays k hik (Nat.lt_succ_self k))) hbefore

/-- A packet that was sent is remembered. -/
theorem Sends.hasSent {handle : Capability} {p : Packet} (h : course.Sends i handle p) (hij : i < j)
    (hstays : course.Stays i j p.source) : (course.record j p.source).HasSent p := by
  refine hstays.induction (P := (·.HasSent p)) hij ?_ fun k _ _ hcounts hsent => hsent.of_countsOn hcounts
  obtain ⟨hdeed, hsends⟩ := h
  obtain ⟨hv, hx⟩ := Chain.store_of_sends hsends
  obtain ⟨-, c, hc, hsending, -⟩ := Packet.validateSend_eq_ok.1 hv
  rw [record, chain_succ hdeed, Chain.undergo, (Packet.send_writes hv hx).self]
  refine ⟨⟨c, hc, ChannelState.isJoined_of_isSending hsending⟩, ⟨_, rfl, UInt64.le_refl _⟩, ?_⟩
  intro _ bytes hbytes
  rw [Table.get?_insert_self] at hbytes
  exact (Option.some.inj hbytes).symm

/-- A packet that an ordered end has received is remembered. -/
theorem Succeeds.hasPassed {m : Message.Receive} (h : course.Succeeds i (.receive m)) (hij : i < j)
    (hstays : course.Stays i j m.packet.destination) (hordered : course.StaysOrdered i j m.packet.destination) :
    (course.record j m.packet.destination).HasPassed m.packet.sequence := by
  refine hstays.induction (P := (·.HasPassed m.packet.sequence)) hij ?_ fun k hik hkj hcounts hpassed =>
    hpassed.of_countsOn (hordered k (Nat.le_of_lt hik) (Nat.le_of_lt hkj)) hcounts
  obtain ⟨hdeed, htakes⟩ := h
  obtain ⟨name, app, l', -, hv, hx, hafter⟩ := Chain.after_of_takes htakes
  obtain ⟨c, hc, horder⟩ := Option.map_eq_some_iff.1 (hordered i (Nat.le_refl i) (Nat.le_of_lt hij))
  rw [record, chain_succ hdeed, Chain.undergo, hafter]
  exact Message.Receive.hasPassed_of_execute hv hc horder hx

/-- A number that was used is used again only if it is the last one. Whatever the chain holds to begin with and
whatever is done with it, as long as no channel is opened in the place of the end: a packet with the number of one
that was sent is sent if and only if this is the last number and nothing else is against it, and below the last
number the commitment stays or is gone; and a packet with the number of one that an ordered end received is handed
to the application if and only if this is the last number and the packet is accepted, and below the last number
nothing comes of it. -/
theorem used_again_iff (hij : i < j) :
    (∀ handle p, course.Sends i handle p → course.Stays i j p.source →
      (∀ handle' p', p'.source = p.source → p'.sequence = p.sequence →
        ((course.chain j).sends handle' p' = true ↔ p.sequence = .last ∧
          p'.validateSend (course.chain j).host
            ((course.chain j).store.setNextSend p.source p.sequence) handle' = .ok ())) ∧
      (p.sequence ≠ .last → ∀ bytes,
        (course.record j p.source).commitments.get? p.sequence = some bytes → bytes = p.commitment)) ∧
    (∀ m : Message.Receive, course.Succeeds i (.receive m) → course.Stays i j m.packet.destination →
      course.StaysOrdered i j m.packet.destination →
      ∀ m' : Message.Receive, m'.packet.destination = m.packet.destination →
        m'.packet.sequence = m.packet.sequence →
        ((course.chain j).calls m' = true ↔
          m.packet.sequence = .last ∧ (course.chain j).takes (.receive m') = true) ∧
        (m.packet.sequence ≠ .last → ∀ app,
          m'.execute ⟨(course.chain j).store, app⟩ = .ok () ⟨(course.chain j).store, app⟩)) := by
  constructor
  · intro handle p hsends hstays
    have hsent := hsends.hasSent hij hstays
    exact ⟨fun handle' p' hsource hseq => Chain.sends_iff_of_hasSent hsent hsource hseq, hsent.inFlight⟩
  · intro m hsucceeds hstays hordered m' hdest hseq
    have hpassed := hsucceeds.hasPassed hij hstays hordered
    obtain ⟨c, hc, horder⟩ := Option.map_eq_some_iff.1 (hordered j (Nat.le_of_lt hij) (Nat.le_refl j))
    rw [← hdest] at hpassed hc
    rw [← hseq] at hpassed ⊢
    exact ⟨Chain.calls_iff_of_hasPassed hc horder hpassed,
      fun hbelow app => Message.Receive.execute_of_hasPassed hc horder hpassed hbelow⟩

end

/-! ## A number that is used twice -/

section
attribute [local instance] Digest.plain

open Sample (endId)

/-- A chain with an ordered channel whose end stands at the number `n` in both directions. -/
def standingAt (n : Sequence) : Chain :=
  let c := (Sample.joined 5).a
  let store := c.store.setOwnedChannel endId (Sample.channel .opened .ordered 0)
  { c with store := (store.setNextSend endId n).setNextReceive endId n }

def ping (n : Sequence) : Packet := Sample.packet n.number

def pong (n : Sequence) : Packet := { ping n with data := .ofText "pong" }

/-- The other end has sent `ping`. -/
def arrival (n : Sequence) : Message.Receive :=
  ⟨ping n, Sample.proofAt 5 (.commitment endId n) (ping n).commitment, ⟨0, 5⟩, Sample.signer⟩

/-- The end sends two packets and receives one twice, all with the number `n`. -/
def repeating (n : Sequence) : Course :=
  ⟨standingAt n, [.send ⟨1⟩ (ping n), .deliver (.receive (arrival n)), .send ⟨1⟩ (pong n),
    .deliver (.receive (arrival n))]⟩

theorem not_opens_repeating (n : Sequence) (k : Nat) (id : EndId) : ¬(repeating n).Opens k id := by
  rintro ⟨m, ⟨hdeed, -⟩, hopens, -⟩
  have hmem : Deed.deliver m ∈ (repeating n).deeds := List.mem_of_getElem? hdeed
  simp only [repeating, List.mem_cons, reduceCtorEq, Deed.deliver.injEq, List.not_mem_nil, false_or, or_false,
    or_self] at hmem
  subst hmem
  cases hopens

/-- With the last number the second packet is sent as well, in the place of the first, and the packet that comes
twice is handed over twice. -/
theorem used_twice_at_last :
    let course := repeating .last
    course.Sends 0 ⟨1⟩ (ping .last) ∧
    (course.record 1 endId).commitments.get? .last = some (ping .last).commitment ∧
    course.Sends 2 ⟨1⟩ (pong .last) ∧
    (course.record 3 endId).commitments.get? .last = some (pong .last).commitment ∧
    (ping .last).commitment ≠ (pong .last).commitment ∧
    course.Succeeds 1 (.receive (arrival .last)) ∧ (course.chain 1).calls (arrival .last) = true ∧
    course.Succeeds 3 (.receive (arrival .last)) ∧ (course.chain 3).calls (arrival .last) = true := by
  intro course
  decide +kernel

theorem repeating_facts : (repeating .one).Sends 0 ⟨1⟩ (ping .one) ∧
    (repeating .one).Succeeds 1 (.receive (arrival .one)) ∧
    (∀ k, k < 4 → ((repeating .one).record k endId).channel.map ChannelEnd.order = some .ordered) ∧
    (repeating .one).Succeeds 3 (.receive (arrival .one)) := by
  decide +kernel

/-- With the number one the second packet is refused, and the packet that comes again is accepted and not handed
over again. -/
theorem used_once_below_last : ((repeating .one).chain 2).sends ⟨1⟩ (pong .one) = false ∧
    (repeating .one).Succeeds 3 (.receive (arrival .one)) ∧
    ((repeating .one).chain 3).calls (arrival .one) = false := by
  obtain ⟨hsends, hreceives, hordered, hagain⟩ := repeating_facts
  have hstays (i j : Nat) : (repeating .one).Stays i j endId := fun k _ _ => not_opens_repeating .one k endId
  obtain ⟨hpackets, -⟩ := @used_again_iff _ (repeating .one) 0 2 (by decide)
  obtain ⟨-, hmessages⟩ := @used_again_iff _ (repeating .one) 1 3 (by decide)
  have hsecond := (hpackets ⟨1⟩ (ping .one) hsends (hstays 0 2)).1 ⟨1⟩ (pong .one) rfl rfl
  have hthird := (hmessages (arrival .one) hreceives (hstays 1 3)
    (fun k _ hk => hordered k (Nat.lt_succ_of_le hk)) (arrival .one) rfl rfl).1
  have hbelow : (ping .one).sequence ≠ .last := by decide
  refine ⟨Bool.eq_false_iff.2 fun h => hbelow (hsecond.1 h).1, hagain, ?_⟩
  exact Bool.eq_false_iff.2 fun h => hbelow (hthird.1 h).1

end

end Course

end ChannelLayer
