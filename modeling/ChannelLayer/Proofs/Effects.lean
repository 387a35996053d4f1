import ChannelLayer.Proofs.Acceptance
import ChannelLayer.Proofs.Applications
import ChannelLayer.Proofs.Orders

/-!
# The turn that a message takes

A message that is accepted and takes effect has one end take one turn. Each lemma joins what the message
was checked for (`ChannelLayer.Proofs.Acceptance`) with what its execution wrote
(`ChannelLayer.Proofs.Writes`).
-/

set_option autoImplicit false

namespace ChannelLayer

variable [Digest]

/-- `v` is the view of a chain for which the claims of `m` are true where they verify. -/
structure View.Fits (v : View) (host : Host) (s : Store) (m : Message) : Prop where
  hostEq : v.host = host
  connectionsEq : v.connections = s.connections
  shown : ∀ e ∈ m.evidence s, e.Verified → v.shown e.height e.path e.value
  clock : ∀ id h t, host.clients.consensusTime id h = .ok t → v.clock h t
  deadline : ∀ t ∈ m.deadlines, v.deadline t
  delivered : v.delivered m

/-- In the step from `s` to `s'` the end `id` takes one turn, and no other end any. -/
def Store.TakesTurn (v : View) (id : EndId) (s s' : Store) : Prop :=
  ∃ r es, s.Writes s' id r es ∧ Turn v id (s.record id) r es

def Ledger.TakesTurn (v : View) (id : EndId) (l l' : Ledger) : Prop :=
  ∃ r es, l.Writes l' id r es ∧ Turn v id (l.store.record id) r es

/-- In the step from `l` to `l'` the end `id` takes one turn and no other end any, and its packet `n`, which
was in flight, no longer is. -/
def Ledger.Settles (v : View) (id : EndId) (n : Sequence) (l l' : Ledger) : Prop :=
  ∃ r es, l.Writes l' id r es ∧ Turn v id (l.store.record id) r es ∧
    (l.store.record id).commitments.get? n ≠ none ∧
    r.commitments = (l.store.record id).commitments.erase n

theorem Ledger.Settles.takesTurn {v : View} {id : EndId} {n : Sequence} {l l' : Ledger}
    (h : l.Settles v id n l') : l.TakesTurn v id l' := by
  obtain ⟨r, es, hw, hturn, -⟩ := h
  exact ⟨r, es, hw, hturn⟩

theorem Ledger.TakesTurn.toStore {v : View} {id : EndId} {l l' : Ledger} (h : l.TakesTurn v id l') :
    l.store.TakesTurn v id l'.store := by
  obtain ⟨r, es, hw, hturn⟩ := h
  exact ⟨r, es, hw.toWrites, hturn⟩

/-- Every end of the store has an owner. -/
def Store.Owned (s : Store) : Prop := ∀ id, (s.record id).channel ≠ none → (s.record id).capability ≠ none

/-- The name that the next channel gets is free where no one owns it. -/
def Store.NamesAnew (s : Store) : Prop :=
  ∀ id, id.channel = s.nextChannelId → (s.record id).capability = none → (s.record id).channel = none

omit [Digest] in
theorem Store.Owned.namesAnew {s : Store} (h : s.Owned) : s.NamesAnew := by
  intro id _ hunowned
  exact Decidable.byContradiction fun hborn => h id hborn hunowned

variable {v : View} {host : Host} {s : Store} {app : App} {l' : Ledger}

omit [Digest] in
theorem Store.joined?_of {id : EndId} {c : ChannelEnd} {hop : ConnectionId} {conn : ConnectionEnd}
    (hc : (s.record id).channel = some c) (hhop : c.hops.head? = some hop)
    (hconn : s.connections.get? hop = some conn) : s.joined? id = some (c, conn) := by
  simp [joined?, over?, hc, hhop, hconn]

omit [Digest] in
theorem ChannelOrder.unordered_of_ne {o : ChannelOrder} (hspecified : o ≠ .unspecified)
    (hother : o ≠ .ordered) : o = .unordered := by
  cases o with
  | unspecified => exact absurd rfl hspecified
  | unordered => rfl
  | ordered => exact absurd rfl hother

/-! ## Opening and closing -/

omit [Digest] in
theorem Ledger.Writes.addChannel {l : Ledger} {id : EndId} {c : ChannelEnd} {u : Unit}
    (hx : Exec.addChannel id c l = .ok u l') :
    l.Writes l' id { l.store.record id with
      channel := some c, capability := some ⟨l.store.capabilityCounter + 1⟩ } [] ∧
    l'.store.channelCounter = l.store.channelCounter + 1 ∧
    l'.store.capabilityCounter = l.store.capabilityCounter + 1 := by
  simp only [Exec.addChannel, Store.claim, run_bind_eq_ok, Exec.update_eq_ok, Exec.store_eq_ok,
    run_lift_eq_ok, bind_eq_ok, Store.checkUnclaimed_eq_ok, liftM, MonadLiftT.monadLift, lift_eq_ok,
    pure_eq_ok, and_assoc, exists_and_left, exists_const, exists_eq_left'] at hx
  obtain ⟨-, rfl⟩ := hx
  refine ⟨⟨⟨?_, rfl, ⟨[], ?_, rfl⟩, .inr rfl⟩, fun h => h⟩, rfl, rfl⟩
  · intro j
    by_cases hj : id = j
    · subst hj
      simp [Store.addChannel, Store.setChannel, Store.update, Store.record]
    · simp [Store.addChannel, Store.setChannel, Store.update, Store.record, hj]
  · simp [Store.addChannel, Store.setChannel, Store.update]

/-- From `s` to `s'` the end `id` came into being, under the next name of the chain and with its next handle. -/
structure Store.Founds (s s' : Store) (id : EndId) : Prop where
  name : id.channel = s.nextChannelId
  record : ∃ c, s'.record id =
    { s.record id with channel := some c, capability := some ⟨s.capabilityCounter + 1⟩ }
  others : ∀ id', id' ≠ id → s'.record id' = s.record id'
  channels : s'.channelCounter = s.channelCounter + 1
  handles : s'.capabilityCounter = s.capabilityCounter + 1

omit [Digest] in
theorem Exec.founds_of_addChannel {l : Ledger} {id : EndId} {c : ChannelEnd} {u : Unit}
    (hname : id.channel = l.store.nextChannelId) (hx : Exec.addChannel id c l = .ok u l') :
    l.store.Founds l'.store id := by
  obtain ⟨hw, hchannels, hhandles⟩ := Ledger.Writes.addChannel hx
  exact ⟨hname, ⟨c, hw.self⟩, fun id' hid' => by rw [hw.record, if_neg (Ne.symm hid')], hchannels, hhandles⟩

namespace Message

theorem OpenInit.turn {m : OpenInit} (hfit : v.Fits host s (.openInit m))
    (hv : m.validate s app = .ok ())
    (hx : m.execute ⟨s, app⟩ = .ok () l') :
    Ledger.TakesTurn v ⟨m.port, s.nextChannelId⟩ ⟨s, app⟩ l' := by
  obtain ⟨-, -, -, -, -, -, hnew, -⟩ := OpenInit.validate_eq_ok.1 hv
  simp [OpenInit.execute, and_assoc] at hx
  obtain ⟨extras, version, -, hop, -, horder, hlen, _, l₁, hadd, rfl⟩ := hx
  obtain ⟨hw, -⟩ := Ledger.Writes.addChannel hadd
  refine ⟨_, _, ((hw.log _).report _).addExtras _, ?_⟩
  exact .created hnew (.inl ⟨rfl, rfl⟩) horder hlen rfl ⟨_, hfit.delivered, rfl⟩

/-- That there is no such end yet is not checked, but the name was never given to an end. -/
theorem OpenTry.turn {m : OpenTry} (hfit : v.Fits host s (.openTry m)) (hanew : s.NamesAnew)
    (hv : m.validate host s app = .ok ()) (hx : m.execute ⟨s, app⟩ = .ok () l') :
    Ledger.TakesTurn v ⟨m.port, s.nextChannelId⟩ ⟨s, app⟩ l' := by
  obtain ⟨-, -, -, -, -, -, -, hunowned, -⟩ := OpenTry.validate_eq_ok.1 hv
  have hnew := hanew ⟨m.port, s.nextChannelId⟩ rfl hunowned
  simp [OpenTry.execute, and_assoc] at hx
  obtain ⟨app', extras, version, happ, hop, -, horder, hlen, _, l₁, hadd, rfl⟩ := hx
  obtain ⟨hw, -⟩ := Ledger.Writes.addChannel hadd
  refine ⟨_, _, ⟨((hw.toWrites.log _).report _).addExtras _, fun h => ?_⟩, ?_⟩
  · exact hw.sample (App.isSample_of_openTry happ h)
  · exact .created hnew (.inr ⟨rfl, by simp [OpenTry.request, Counterparty.ofEnd]⟩) horder hlen rfl
      ⟨_, hfit.delivered, rfl⟩

omit [Digest] in
theorem OpenInit.founds {m : OpenInit} (hx : m.execute ⟨s, app⟩ = .ok () l') :
    s.Founds l'.store ⟨m.port, s.nextChannelId⟩ := by
  simp [OpenInit.execute, and_assoc] at hx
  obtain ⟨extras, version, -, hop, -, -, -, _, l₁, hadd, rfl⟩ := hx
  have h : s.Founds l₁.store (m.request s).id := Exec.founds_of_addChannel rfl hadd
  exact ⟨h.name, h.record, h.others, h.channels, h.handles⟩

omit [Digest] in
theorem OpenTry.founds {m : OpenTry} (hx : m.execute ⟨s, app⟩ = .ok () l') :
    s.Founds l'.store ⟨m.port, s.nextChannelId⟩ := by
  simp [OpenTry.execute, and_assoc] at hx
  obtain ⟨app', extras, version, -, hop, -, -, -, _, l₁, hadd, rfl⟩ := hx
  have h : s.Founds l₁.store (m.request s).id := Exec.founds_of_addChannel rfl hadd
  exact ⟨h.name, h.record, h.others, h.channels, h.handles⟩

theorem OpenAck.turn {m : OpenAck} (hfit : v.Fits host s (.openAck m))
    (hv : m.validate host s app = .ok ())
    (hx : m.execute ⟨s, app⟩ = .ok () l') : Ledger.TakesTurn v m.id ⟨s, app⟩ l' := by
  obtain ⟨-, c, hc, hstate, -, -, hop, hhop, conn, ⟨hconn, -⟩, -, remoteHop, hremote, -, ⟨-, hend⟩, -⟩ :=
    OpenAck.validate_eq_ok.1 hv
  have hshown := hfit.shown _
    (by simp [evidence, evidence?, Store.joined?_of hc hhop hconn, ChannelEnd.mirror?, hremote]) hend
  simp [OpenAck.execute, and_assoc, hc] at hx
  obtain ⟨extras, -, hop', -, rfl⟩ := hx
  refine ⟨_, _, (((((Ledger.Writes.refl _ _).update _).update _).log _).report _).addExtras _, ?_⟩
  refine .opened hc (.inl hstate) rfl rfl (by simp [OpenAck.opened]) rfl rfl ?_
    (.told hfit.delivered rfl hstate rfl)
  exact ⟨m.proofHeight, ⟨c.remote.port, m.counterpartyChannel⟩, .tryOpen, by decide, rfl, hop, remoteHop,
    hhop, ⟨conn, by rwa [hfit.connectionsEq], hremote⟩, hshown⟩

theorem OpenConfirm.turn {m : OpenConfirm} (hfit : v.Fits host s (.openConfirm m))
    (hv : m.validate host s app = .ok ())
    (hx : m.execute ⟨s, app⟩ = .ok () l') : Ledger.TakesTurn v m.id ⟨s, app⟩ l' := by
  obtain ⟨-, c, hc, hstate, -, -, hop, hhop, conn, ⟨hconn, -⟩, -, remote, hto, remoteHop, hremote, -,
    ⟨-, hend⟩, -⟩ := OpenConfirm.validate_eq_ok.1 hv
  have hremote? : c.remote? = some remote := ChannelEnd.remote?_eq_some.2 hto
  have hshown := hfit.shown _ (by
    simp [evidence, evidence?, Store.joined?_of hc hhop hconn, ChannelEnd.mirror?, hremote, hremote?])
    hend
  simp [OpenConfirm.execute, and_assoc, hc] at hx
  obtain ⟨extras, -, hop', -, remote', -, rfl⟩ := hx
  refine ⟨_, _, (((((Ledger.Writes.refl _ _).update _).update _).log _).report _).addExtras _, ?_⟩
  refine .opened hc (.inr ⟨hstate, rfl, rfl⟩) rfl rfl (by simp [hto, Counterparty.ofEnd]) rfl rfl ?_
    (.confirmed hfit.delivered rfl hstate rfl)
  exact ⟨m.proofHeight, remote, .opened, by decide, hto, hop, remoteHop, hhop,
    ⟨conn, by rwa [hfit.connectionsEq], hremote⟩, hshown⟩

omit [Digest] in
theorem closeEnd_writes {id : EndId} {line : String} {event : EndInfo → Event} {l : Ledger}
    {c : ChannelEnd} {u : Unit} (hc : (l.store.record id).channel = some c)
    (hevent : ∀ info, (event info).decides? = none) (hx : Exec.closeEnd id line event l = .ok u l') :
    l.Writes l' id ((l.store.record id).setState c .closed) [] := by
  simp [Exec.closeEnd, and_assoc, hc] at hx
  obtain ⟨hop, -, rfl⟩ := hx
  have hw := ((((Ledger.Writes.refl l id).update fun r =>
    { r with channel := some { c with state := .closed } }).log line).report (event ⟨id, c.remote, hop⟩))
  rwa [show Event.decisive [event ⟨id, c.remote, hop⟩] = [] by simp [Event.decisive, hevent]] at hw

theorem CloseInit.turn {m : CloseInit} (hv : m.validate s app = .ok ())
    (hx : m.execute ⟨s, app⟩ = .ok () l') : Ledger.TakesTurn v m.id ⟨s, app⟩ l' := by
  obtain ⟨-, ⟨c, conn, hclosable⟩, -⟩ := CloseInit.validate_eq_ok.1 hv
  obtain ⟨hc, hopen, -⟩ := Store.closable_eq_ok.1 hclosable
  simp [CloseInit.execute, and_assoc] at hx
  obtain ⟨extras, -, _, l₁, hclose, rfl⟩ := hx
  exact ⟨_, _, (closeEnd_writes hc (fun _ => rfl) hclose).addExtras _, .closed hc hopen⟩

theorem CloseConfirm.turn {m : CloseConfirm} (hv : m.validate host s app = .ok ())
    (hx : m.execute ⟨s, app⟩ = .ok () l') : Ledger.TakesTurn v m.id ⟨s, app⟩ l' := by
  obtain ⟨-, c, conn, hclosable, -⟩ := CloseConfirm.validate_eq_ok.1 hv
  obtain ⟨hc, hopen, -⟩ := Store.closable_eq_ok.1 hclosable
  simp [CloseConfirm.execute, and_assoc] at hx
  obtain ⟨extras, -, _, l₁, hclose, rfl⟩ := hx
  exact ⟨_, _, (closeEnd_writes hc (fun _ => rfl) hclose).addExtras _, .closed hc hopen⟩

/-! ## Packets -/

end Message

theorem Packet.send_writes {p : Packet} {handle : Capability} {s' : Store}
    (hv : p.validateSend host s handle = .ok ()) (hx : p.executeSend s = .ok () s') :
    s.Writes s' p.source
      { s.record p.source with nextSend := some p.sequence.next
                               commitments := (s.record p.source).commitments.insert p.sequence p.commitment }
      [] := by
  obtain ⟨-, c, hc, -, -, -, -, -, -, -, -, -, -, -, -, hnext⟩ := Packet.validateSend_eq_ok.1 hv
  simp [Packet.executeSend, Store.commit, hc, hnext, and_assoc] at hx
  obtain ⟨hop, -, rfl⟩ := hx
  exact (((Store.Writes.refl _ _).update _).log _).report _

theorem Packet.send_turn {p : Packet} {handle : Capability} {s' : Store} (hasked : v.sending p)
    (hv : p.validateSend host s handle = .ok ()) (hx : p.executeSend s = .ok () s') :
    s.TakesTurn v p.source s' := by
  have hw := Packet.send_writes hv hx
  obtain ⟨-, c, hc, hsending, -, hto, -, -, -, -, -, -, -, -, -, hnext⟩ :=
    Packet.validateSend_eq_ok.1 hv
  exact ⟨_, _, hw, .sent hc hsending rfl hto hnext hasked⟩

namespace Message

/-- An unordered end takes a packet that it has no receipt of. -/
theorem Receive.execute_of_unordered {m : Receive} {c : ChannelEnd} {hop : ConnectionId}
    (hc : (s.record m.packet.destination).channel = some c) (horder : c.order = .unordered)
    (hhop : c.hops.head? = some hop)
    (hfirst : s.receipt m.packet.destination m.packet.sequence ≠ .received) :
    ∃ l', m.execute ⟨s, app⟩ = .ok () l' := by
  simp [execute, take, remember, Store.hasReceived, and_assoc, hc, horder, hhop, hfirst]

theorem Receive.writes_of_unordered {m : Receive} {c : ChannelEnd}
    (hc : (s.record m.packet.destination).channel = some c) (horder : c.order = .unordered)
    (hfirst : s.receipt m.packet.destination m.packet.sequence ≠ .received)
    (hx : m.execute ⟨s, app⟩ = .ok () l') :
    ∃ r hop, Ledger.Writes ⟨s, app⟩ l' m.packet.destination r
      [.receivePacket m.packet .unordered hop] := by
  simp [execute, take, remember, Store.hasReceived, and_assoc, hc, horder, hfirst] at hx
  obtain ⟨hop, -, rfl⟩ := hx
  exact ⟨_, hop, ((((((Ledger.Writes.refl _ _).update _).update _).log _).log _).report _
    |>.report _).addExtras _⟩

theorem Receive.turn {m : Receive} (hfit : v.Fits host s (.receive m)) (hv : m.validate host s = .ok ())
    (hx : m.execute ⟨s, app⟩ = .ok () l') :
    Ledger.TakesTurn v m.packet.destination ⟨s, app⟩ l' := by
  obtain ⟨-, c, hc, hstate, hbefore, hfrom, hop, hhop, conn, ⟨hconn, -⟩, hintime, -, ⟨-, hverified⟩,
    horder⟩ := Receive.validate_eq_ok.1 hv
  rw [← hfit.hostEq] at hintime
  have hasked : v.receiving m.packet := ⟨m, hfit.delivered, rfl⟩
  have hshown := hfit.shown _ (by simp [evidence, evidence?, Store.joined?_of hc hhop hconn]) hverified
  have hbefore := Receive.checkNotFlushed_eq_ok.1 hbefore
  rcases Receive.checkOrder_eq_ok.1 horder with hunordered | ⟨hordered, next, hnext, hgap⟩
  · simp [execute, take, remember, Store.hasReceived, and_assoc, hc, hunordered] at hx
    rcases hx with ⟨hfirst, hop', -, rfl⟩ | ⟨-, rfl⟩
    · refine ⟨_, _, ((((((Ledger.Writes.refl _ _).update _).update _).log _).log _).report _
        |>.report _).addExtras _, ?_⟩
      rw [← hunordered]
      exact .receivedUnordered hc hstate hunordered rfl hfrom hbefore hshown hfirst hintime hasked
    · exact ⟨_, _, .refl _ _, .idle⟩
  · simp [execute, take, remember, Store.hasReceived, and_assoc, hc, hordered, hnext] at hx
    rcases hx with ⟨hnew, hop', -, rfl⟩ | ⟨-, rfl⟩
    · have hseq : m.packet.sequence = next := Sequence.eq_of_not_lt hnew hgap
      refine ⟨_, _, ((((((Ledger.Writes.refl _ _).update _).update _).log _).log _).report _
        |>.report _).addExtras _, ?_⟩
      rw [← hordered, ← hseq]
      exact .receivedOrdered hc hstate hordered rfl hfrom hbefore hshown (hseq ▸ hnext) hintime hasked
    · exact ⟨_, _, .refl _ _, .idle⟩

/-- Once a packet of a flushing end is settled, the end may be done with flushing. -/
theorem settle_turn {l l₁ l' : Ledger} {id : EndId} {c : ChannelEnd} {n : Sequence}
    {nextAck : Option Sequence} {flushing : Prop} [Decidable flushing]
    (hhost : v.host = host) (hc : (l.store.record id).channel = some c)
    (hflight : (l.store.record id).commitments.get? n ≠ none)
    (hawaits : (l.store.record id).Awaits v c n nextAck) (hasked : v.settling id n)
    (hflushing : c.state = .flushing → flushing)
    (hw : l.Writes l₁ id ((l.store.record id).settle n nextAck) [])
    (hx : (if flushing then Exec.completeFlush host id else pure ()) l₁ = .ok () l') :
    l.Settles v id n l' := by
  split at hx
  · rcases hw.completeFlush hc hx with ⟨hstate, hw⟩ | ⟨hstate, w, hw', hoverdue | ⟨htime, hrest | hlast⟩⟩
    · exact ⟨_, _, hw, .settled hflight hc hawaits (fun h => absurd h hstate) hasked, hflight, rfl⟩
    · obtain ⟨-, e, hw⟩ := hoverdue
      refine ⟨_, _, hw, .gaveUp hc (.inr ⟨_, _, rfl, hflight, hawaits, hasked⟩)
        (.inl ⟨.inl ?_, UInt64.le_refl _⟩) ?_, hflight, rfl⟩
      · simp [hstate, ChannelState.isUpgrading]
      · simp [hstate]
    · exact ⟨_, _, hrest.2, .settled hflight hc hawaits (fun _ => hrest.1) hasked, hflight, rfl⟩
    · exact ⟨_, _, hlast.2, .flushed hc hstate hw' (by rwa [hhost]) hlast.1 hflight hawaits hasked, hflight,
        rfl⟩
  · rename_i hidle
    simp only [run_pure_eq_ok, true_and] at hx
    exact ⟨_, _, hx ▸ hw, .settled hflight hc hawaits (fun h => absurd (hflushing h) hidle) hasked,
      hflight, rfl⟩

omit [Digest] in
/-- An acknowledged packet is settled before the end goes on with its attempt. -/
theorem Acknowledge.followUp {m : Acknowledge} {c : ChannelEnd}
    (hc : (s.record m.packet.source).channel = some c) (hx : m.execute host ⟨s, app⟩ = .ok () l') :
    ∃ l₁, Ledger.Writes ⟨s, app⟩ l₁ m.packet.source ((s.record m.packet.source).settle m.packet.sequence
        (if c.order = .ordered then some m.packet.sequence.next else (s.record m.packet.source).nextAck)) [] ∧
      (if c.state = .flushing then Exec.completeFlush host m.packet.source else pure ()) l₁ = .ok () l' := by
  by_cases horder : c.order = .ordered <;> simp [execute, and_assoc, hc, horder] at hx
  · obtain ⟨hop, -, extras, -, hx⟩ := hx
    refine ⟨_, ?_, hx⟩
    rw [if_pos horder]
    exact (((((Ledger.Writes.refl _ _).update _).update _).log _).report _).addExtras _
  · obtain ⟨hop, -, extras, -, hx⟩ := hx
    refine ⟨_, ?_, hx⟩
    rw [if_neg horder]
    exact ((((Ledger.Writes.refl _ _).update _).log _).report _).addExtras _

theorem Acknowledge.settles {m : Acknowledge} (hfit : v.Fits host s (.acknowledge m))
    (hv : m.validate host s app = .ok ()) (hx : m.execute host ⟨s, app⟩ = .ok () l') :
    Ledger.Settles v m.packet.source m.packet.sequence ⟨s, app⟩ l' := by
  obtain ⟨-, c, hc, -, hto, hop, hhop, conn, ⟨hconn, -⟩, hflight, hnext, -, ⟨-, hverified⟩, -⟩ :=
    Acknowledge.validate_eq_ok.1 hv
  have hshown := hfit.shown _ (by simp [evidence, evidence?, Store.joined?_of hc hhop hconn]) hverified
  have hflight : (s.record m.packet.source).commitments.get? m.packet.sequence ≠ none := by
    simp [Store.checkInFlight_eq_ok.1 hflight]
  obtain ⟨l₁, hw, hx⟩ := Acknowledge.followUp hc hx
  refine settle_turn hfit.hostEq hc hflight ⟨fun horder => ?_, fun _ => ?_, fun horder => ?_⟩
    ⟨_, hfit.delivered, rfl⟩ id hw hx
  · exact ⟨checkOrder_eq_ok.1 hnext horder, if_pos horder⟩
  · exact ⟨m.proofHeight, m.packet.destination, m.ack.commitment, hto, hshown⟩
  · exact if_neg horder

omit [Digest] in
/-- A packet that was not received is settled before an end that is not ordered goes on with its attempt. -/
theorem timeOut_followUp {p : Packet} {c : ChannelEnd} (hc : (s.record p.source).channel = some c)
    (horder : c.order ≠ .ordered) (hx : Exec.timeOut host p ⟨s, app⟩ = .ok () l') :
    ∃ l₁, Ledger.Writes ⟨s, app⟩ l₁ p.source
        ((s.record p.source).settle p.sequence (s.record p.source).nextAck) [] ∧
      (if c.state = .flushing ∧ c.order = .unordered then Exec.completeFlush host p.source else pure ()) l₁ =
        .ok () l' := by
  simp [Exec.timeOut, hc, horder, and_assoc] at hx
  obtain ⟨extras, -, hx⟩ := hx
  exact ⟨_, ((((Ledger.Writes.refl _ _).update _).log _).report _).addExtras _, hx⟩

omit [Digest] in
/-- A packet that was not received closes an ordered end, and an attempt under way goes with it. -/
theorem timeOut_writes {p : Packet} {c : ChannelEnd} (hc : (s.record p.source).channel = some c)
    (hordered : c.order = .ordered) (hx : Exec.timeOut host p ⟨s, app⟩ = .ok () l') :
    Ledger.Writes ⟨s, app⟩ l' p.source
      (((s.record p.source).settle p.sequence (s.record p.source).nextAck).close c)
      (if c.state.isUpgrading = true then
        [.upgradeError (.ofEnd p.source c) c.state (c.receiptFor .channelClosed)] else []) := by
  simp [Exec.timeOut, Exec.dropUpgrade, hc, hordered, and_assoc] at hx
  obtain ⟨extras, -, _, l₁, hx, hop, -, rfl⟩ := hx
  have hw : ∃ r es, Ledger.Writes ⟨s, app⟩ l₁ p.source r es ∧
      ((s.record p.source).settle p.sequence (s.record p.source).nextAck).close c =
        { r with channel := some { c with state := .closed } } ∧
      es = if c.state.isUpgrading = true then
        [.upgradeError (.ofEnd p.source c) c.state (c.receiptFor .channelClosed)] else [] := by
    split at hx
    · rename_i hupgrading
      simp only [run_bind_eq_ok, Exec.update_eq_ok] at hx
      obtain ⟨_, l₂, hreceipt, rfl⟩ := hx
      refine ⟨_, _, (((Ledger.Writes.refl _ _).update _).writeReceipt hreceipt).update _, ?_, ?_⟩
      · simp only [ChannelRecord.close, if_pos hupgrading]
        rfl
      · simp [hupgrading]
    · rename_i hidle
      simp only [run_pure_eq_ok, true_and] at hx
      subst hx
      refine ⟨_, _, (Ledger.Writes.refl _ _).update _, ?_, ?_⟩
      · simp only [ChannelRecord.close, if_neg hidle]
        rfl
      · simp [hidle]
  obtain ⟨r, es, hw, hr, rfl⟩ := hw
  have hw := ((((hw.update fun r => { r with channel := some { c with state := .closed } }).log
    "success: packet timeout").report (.timeoutPacket p .ordered)).report
      (.channelClosed ⟨p.source, c.remote, hop⟩ .ordered)).addExtras extras
  rw [hr]
  simpa [Event.decisive, Event.decides?, Store.setChannel, hordered] using hw

theorem timeOut_settles {p : Packet} {c : ChannelEnd} (hhost : v.host = host)
    (hc : (s.record p.source).channel = some c) (hto : c.remote = p.receiver)
    (hflight : s.checkInFlight p = .ok ()) (hspecified : c.order ≠ .unspecified)
    (hlapsing : v.lapsing p.source p.sequence) (hx : Exec.timeOut host p ⟨s, app⟩ = .ok () l') :
    Ledger.Settles v p.source p.sequence ⟨s, app⟩ l' := by
  have hflight : (s.record p.source).commitments.get? p.sequence ≠ none := by
    simp [Store.checkInFlight_eq_ok.1 hflight]
  by_cases horder : c.order = .ordered
  · exact ⟨_, _, timeOut_writes hc horder hx,
      .timedOut hc (by simp [hto, Packet.receiver, Counterparty.ofEnd]) hflight rfl horder hlapsing,
      hflight, ChannelRecord.commitments_close c⟩
  · obtain ⟨l₁, hw, hx⟩ := timeOut_followUp hc horder hx
    exact settle_turn hhost hc hflight
      ⟨fun h => absurd h horder, fun h => absurd h horder, fun _ => rfl⟩
      (View.settling_of_lapsing hlapsing) (fun h => ⟨h, ChannelOrder.unordered_of_ne hspecified horder⟩) hw
      hx

theorem specified_of_unreceived {p : Packet} {clients : Clients} {conn : ConnectionEnd}
    {order : ChannelOrder} {nextReceive : Sequence} {proof : Bytes} {height : Height}
    (h : p.verifyUnreceived clients conn order nextReceive proof height = .ok ()) :
    order ≠ .unspecified := by
  rcases Packet.verifyUnreceived_eq_ok.1 h with ⟨rfl, -⟩ | ⟨rfl, -⟩ <;> decide

theorem Timeout.settles {m : Timeout} (hfit : v.Fits host s (.timeout m))
    (hv : m.validate host s app = .ok ()) (hx : m.execute host ⟨s, app⟩ = .ok () l') :
    Ledger.Settles v m.packet.source m.packet.sequence ⟨s, app⟩ l' := by
  obtain ⟨-, c, hc, -, hto, hop, -, conn, -, hflight, -, time, -, -, hunreceived, -⟩ :=
    Timeout.validate_eq_ok.1 hv
  exact timeOut_settles hfit.hostEq hc hto hflight (specified_of_unreceived hunreceived)
    ⟨_, hfit.delivered, rfl⟩ hx

theorem TimeoutOnClose.settles {m : TimeoutOnClose} (hfit : v.Fits host s (.timeoutOnClose m))
    (hv : m.validate host s app = .ok ()) (hx : m.execute host ⟨s, app⟩ = .ok () l') :
    Ledger.Settles v m.packet.source m.packet.sequence ⟨s, app⟩ l' := by
  obtain ⟨-, c, hc, hto, hflight, hop, -, conn, -, -, remote, -, remoteHop, -, hspecified, -⟩ :=
    TimeoutOnClose.validate_eq_ok.1 hv
  exact timeOut_settles hfit.hostEq hc hto hflight hspecified ⟨_, hfit.delivered, rfl⟩ hx

end Message

end ChannelLayer
