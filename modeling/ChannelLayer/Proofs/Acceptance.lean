import ChannelLayer.Proofs.Evidence

/-!
# When a message is accepted

For each message, all that its validation asks for: the state of the end it is for, the connection that end
runs over, what the message says beside what is stored, and the claims about the other chain that have to
verify. The parts are in the order in which they are checked.
-/

set_option autoImplicit false

namespace ChannelLayer

variable {host : Host} {s : Store} {app : App}

/-! ## Packets -/

/-- An end may send while it is open or has only proposed an upgrade. -/
theorem Packet.validateSend_eq_ok {p : Packet} {handle : Capability} :
    p.validateSend host s handle = .ok () ↔ p.check = .ok () ∧
      ∃ c, (s.record p.source).channel = some c ∧ c.state.isSending = true ∧
        s.authenticates handle p.source = true ∧ c.remote = p.receiver ∧
      ∃ hop, c.hops.head? = some hop ∧ ∃ conn, s.connections.get? hop = some conn ∧
      ∃ height, host.clients.latestHeight conn.client = .ok height ∧
      ∃ time, host.clients.consensusTime conn.client height = .ok time ∧
        p.timedOut height time = false ∧ (s.record p.source).nextSend = some p.sequence := by
  simp [Packet.validateSend, -Clients.consensusTime_eq_ok]

/-- A packet is settled at the end it was sent from. -/
theorem Store.checkInFlight_eq_ok [Digest] {p : Packet} {u : Unit} :
    s.checkInFlight p = .ok u ↔
      (s.record p.source).commitments.get? p.sequence = some p.commitment := by
  simp [Store.checkInFlight]

/-- That a packet was not received is proved in one of two ways, by the ordering of its end. -/
theorem Packet.verifyUnreceived_eq_ok [Digest] {p : Packet} {clients : Clients} {conn : ConnectionEnd}
    {order : ChannelOrder} {nextReceive : Sequence} {proof : Bytes} {height : Height} {u : Unit} :
    p.verifyUnreceived clients conn order nextReceive proof height = .ok u ↔
      order = .ordered ∧ ¬p.sequence < nextReceive ∧
        clients.checkVerified conn.client height = .ok () ∧
        (conn.claim proof height (.nextReceive p.destination) (some nextReceive.toBytes)).Verified ∨
      order = .unordered ∧ clients.checkVerified conn.client height = .ok () ∧
        (conn.claim proof height (.receipt p.destination p.sequence) none).Verified := by
  cases order <;> simp [Packet.verifyUnreceived, -Clients.checkVerified_eq_ok]

namespace Message

theorem Receive.checkNotFlushed_eq_ok {m : Receive} {u : Unit} :
    m.checkNotFlushed s = .ok u ↔ ∀ w, (s.record m.packet.destination).counterpartyUpgrade = some w →
      ¬w.nextSend ≤ m.packet.sequence := by
  unfold Receive.checkNotFlushed
  split <;> simp [*]

theorem Receive.checkOrder_eq_ok {m : Receive} {order : ChannelOrder} {u : Unit} :
    m.checkOrder s order = .ok u ↔ order = .unordered ∨ order = .ordered ∧
      ∃ next, (s.record m.packet.destination).nextReceive = some next ∧ ¬next < m.packet.sequence := by
  cases order <;> simp [Receive.checkOrder]

theorem Acknowledge.checkOrder_eq_ok {m : Acknowledge} {order : ChannelOrder} {u : Unit} :
    m.checkOrder s order = .ok u ↔
      (order = .ordered → (s.record m.packet.source).nextAck = some m.packet.sequence) := by
  by_cases h : order = .ordered <;> simp [Acknowledge.checkOrder, h]

section
variable [Digest]

theorem Receive.validate_eq_ok {m : Receive} :
    m.validate host s = .ok () ↔ m.signer.isEmpty = false ∧
      ∃ c, (s.record m.packet.destination).channel = some c ∧ c.state ∈ receivingStates ∧
        m.checkNotFlushed s = .ok () ∧ c.remote = m.packet.sender ∧
      ∃ hop, c.hops.head? = some hop ∧
      ∃ conn, (s.connections.get? hop = some conn ∧ conn.state = .opened) ∧
        m.packet.timedOut host.height host.time = false ∧
        conn.checkProofHeight host.clients m.proofHeight = .ok () ∧
        (host.clients.checkVerified conn.client m.proofHeight = .ok () ∧
          (conn.claim m.proof m.proofHeight (.commitment m.packet.source m.packet.sequence)
            (some m.packet.commitment)).Verified) ∧
        m.checkOrder s c.order = .ok () := by
  simp [Receive.validate, -Clients.checkVerified_eq_ok]

theorem Acknowledge.validate_eq_ok {m : Acknowledge} :
    m.validate host s app = .ok () ↔ m.signer.isEmpty = false ∧
      ∃ c, (s.record m.packet.source).channel = some c ∧ c.state ∈ settlingStates ∧
        c.remote = m.packet.receiver ∧
      ∃ hop, c.hops.head? = some hop ∧
      ∃ conn, (s.connections.get? hop = some conn ∧ conn.state = .opened) ∧
        s.checkInFlight m.packet = .ok () ∧ m.checkOrder s c.order = .ok () ∧
        conn.checkProofHeight host.clients m.proofHeight = .ok () ∧
        (host.clients.checkVerified conn.client m.proofHeight = .ok () ∧
          (conn.claim m.proof m.proofHeight (.ack m.packet.destination m.packet.sequence)
            (some m.ack.commitment)).Verified) ∧
        app.permitsSettling .checkAcknowledge = .ok () := by
  simp [Acknowledge.validate, -Clients.checkVerified_eq_ok]

theorem Timeout.validate_eq_ok {m : Timeout} :
    m.validate host s app = .ok () ↔ m.signer.isEmpty = false ∧
      ∃ c, (s.record m.packet.source).channel = some c ∧ c.state ∈ settlingStates ∧
        c.remote = m.packet.receiver ∧
      ∃ hop, c.hops.head? = some hop ∧ ∃ conn, s.connections.get? hop = some conn ∧
        s.checkInFlight m.packet = .ok () ∧
        conn.checkProofHeight host.clients m.proofHeight = .ok () ∧
      ∃ time, host.clients.consensusTime conn.client m.proofHeight = .ok time ∧
        m.packet.checkTimedOut m.proofHeight time = .ok () ∧
        m.packet.verifyUnreceived host.clients conn c.order m.nextReceive m.proofUnreceived
          m.proofHeight = .ok () ∧
        app.permitsSettling .checkTimeout = .ok () := by
  simp [Timeout.validate, -Clients.consensusTime_eq_ok]

theorem TimeoutOnClose.validate_eq_ok {m : TimeoutOnClose} :
    m.validate host s app = .ok () ↔ m.signer.isEmpty = false ∧
      ∃ c, (s.record m.packet.source).channel = some c ∧ c.remote = m.packet.receiver ∧
        s.checkInFlight m.packet = .ok () ∧
      ∃ hop, c.hops.head? = some hop ∧ ∃ conn, s.connections.get? hop = some conn ∧
        conn.checkProofHeight host.clients m.proofHeight = .ok () ∧
      ∃ remote, c.remote = .ofEnd remote ∧
      ∃ remoteHop, conn.remote.connection = some remoteHop ∧ c.order ≠ .unspecified ∧
        (host.clients.checkVerified conn.client m.proofHeight = .ok () ∧
          (conn.claimEnd m.proofClosed m.proofHeight remote
            ⟨.closed, c.order, .ofEnd m.packet.source, [remoteHop], c.version,
              m.counterpartyUpgradeSequence⟩).Verified) ∧
        m.packet.verifyUnreceived host.clients conn c.order m.nextReceive m.proofUnreceived
          m.proofHeight = .ok () ∧
        app.permitsSettling .checkTimeout = .ok () := by
  simp [TimeoutOnClose.validate, and_assoc, -Clients.checkVerified_eq_ok]

end

/-! ## Opening and closing -/

theorem OpenInit.validate_eq_ok {m : OpenInit} :
    m.validate s app = .ok () ↔ m.signer.isEmpty = false ∧ m.hops.length = 1 ∧
      m.order ≠ .unspecified ∧
      ∃ hop, m.hops.head? = some hop ∧
        (∃ conn, s.connections.get? hop = some conn ∧ conn.state = .opened) ∧
        (s.record ⟨m.port, s.nextChannelId⟩).channel = none ∧
        (s.record ⟨m.port, s.nextChannelId⟩).capability = none ∧ app.checkOpenInit = .ok () := by
  simp [OpenInit.validate]

theorem CloseInit.validate_eq_ok {m : CloseInit} :
    m.validate s app = .ok () ↔ m.signer.isEmpty = false ∧
      (∃ c conn, s.closable m.id = .ok (c, conn)) ∧ app.permits .checkCloseInit = .ok () := by
  simp [CloseInit.validate]

theorem Store.closable_eq_ok {id : EndId} {c : ChannelEnd} {conn : ConnectionEnd} :
    s.closable id = .ok (c, conn) ↔ (s.record id).channel = some c ∧ c.state = .opened ∧
      (s.record id).capability ≠ none ∧ c.hops.length = 1 ∧
      ∃ hop, c.hops.head? = some hop ∧ s.connections.get? hop = some conn ∧ conn.state = .opened := by
  simp only [Store.closable, bind_eq_ok, Store.channel_eq_ok, liftM, MonadLiftT.monadLift, lift_eq_ok,
    ChannelEnd.checkState_eq_ok, Store.checkClaimed_eq_ok, checkHops_eq_ok, firstHop_eq_ok,
    Store.openConnection_eq_ok, pure_eq_ok, Prod.mk.injEq, exists_const]
  constructor
  · rintro ⟨c, hc, hstate, hcap, hhops, hop, hhop, conn, hconn, rfl, rfl⟩
    exact ⟨hc, hstate, hcap, hhops, hop, hhop, hconn⟩
  · rintro ⟨hc, hstate, hcap, hhops, hop, hhop, hconn⟩
    exact ⟨c, hc, hstate, hcap, hhops, hop, hhop, conn, hconn, rfl, rfl⟩

section
variable [Digest]

theorem OpenTry.validate_eq_ok {m : OpenTry} :
    m.validate host s app = .ok () ↔ m.signer.isEmpty = false ∧ m.hops.length = 1 ∧
      m.order ≠ .unspecified ∧
      ∃ hop, m.hops.head? = some hop ∧
      ∃ conn, (s.connections.get? hop = some conn ∧ conn.state = .opened) ∧
        (s.record ⟨m.port, s.nextChannelId⟩).capability = none ∧ m.checkReopen s app = .ok () ∧
        app.checkOpenTry (m.request s) = .ok () ∧
        conn.checkProofHeight host.clients m.proofHeight = .ok () ∧
      ∃ remoteHop, conn.remote.connection = some remoteHop ∧
        host.clients.checkVerified conn.client m.proofHeight = .ok () ∧
          (conn.claimEnd m.proof m.proofHeight m.counterparty
            ⟨.init, m.order, ⟨m.port, none⟩, [remoteHop], m.counterpartyVersion, 0⟩).Verified := by
  simp +contextual [OpenTry.validate, and_assoc, -Clients.checkVerified_eq_ok]

theorem OpenAck.validate_eq_ok {m : OpenAck} :
    m.validate host s app = .ok () ↔ m.signer.isEmpty = false ∧
      ∃ c, (s.record m.id).channel = some c ∧ c.state = .init ∧ (s.record m.id).capability ≠ none ∧
        c.hops.length = 1 ∧
      ∃ hop, c.hops.head? = some hop ∧
      ∃ conn, (s.connections.get? hop = some conn ∧ conn.state = .opened) ∧
        conn.checkProofHeight host.clients m.proofHeight = .ok () ∧
      ∃ remoteHop, conn.remote.connection = some remoteHop ∧ c.order ≠ .unspecified ∧
        (host.clients.checkVerified conn.client m.proofHeight = .ok () ∧
          (conn.claimEnd m.proof m.proofHeight ⟨c.remote.port, m.counterpartyChannel⟩
            ⟨.tryOpen, c.order, .ofEnd m.id, [remoteHop], m.counterpartyVersion, 0⟩).Verified) ∧
        app.permits .checkOpenAck = .ok () := by
  simp [OpenAck.validate, and_assoc, -Clients.checkVerified_eq_ok]

theorem OpenConfirm.validate_eq_ok {m : OpenConfirm} :
    m.validate host s app = .ok () ↔ m.signer.isEmpty = false ∧
      ∃ c, (s.record m.id).channel = some c ∧ c.state = .tryOpen ∧ (s.record m.id).capability ≠ none ∧
        c.hops.length = 1 ∧
      ∃ hop, c.hops.head? = some hop ∧
      ∃ conn, (s.connections.get? hop = some conn ∧ conn.state = .opened) ∧
        conn.checkProofHeight host.clients m.proofHeight = .ok () ∧
      ∃ remote, c.remote = .ofEnd remote ∧
      ∃ remoteHop, conn.remote.connection = some remoteHop ∧ c.order ≠ .unspecified ∧
        (host.clients.checkVerified conn.client m.proofHeight = .ok () ∧
          (conn.claimEnd m.proof m.proofHeight remote
            ⟨.opened, c.order, .ofEnd m.id, [remoteHop], c.version, 0⟩).Verified) ∧
        app.permits .checkOpenConfirm = .ok () := by
  simp [OpenConfirm.validate, and_assoc, -Clients.checkVerified_eq_ok]

theorem CloseConfirm.validate_eq_ok {m : CloseConfirm} :
    m.validate host s app = .ok () ↔ m.signer.isEmpty = false ∧
      ∃ c conn, s.closable m.id = .ok (c, conn) ∧
        conn.checkProofHeight host.clients m.proofHeight = .ok () ∧
      ∃ remote, c.remote = .ofEnd remote ∧
      ∃ remoteHop, conn.remote.connection = some remoteHop ∧
        (c.order ≠ .unspecified ∧ host.clients.checkVerified conn.client m.proofHeight = .ok () ∧
          (conn.claimEnd m.proof m.proofHeight remote
            ⟨.closed, c.order, .ofEnd m.id, [remoteHop], c.version,
              m.counterpartyUpgradeSequence⟩).Verified) ∧
        app.permits .checkCloseConfirm = .ok () := by
  simp [CloseConfirm.validate, and_assoc, -Clients.checkVerified_eq_ok]

end

/-! ## Proposing and answering an upgrade -/

theorem UpgradeTry.check_eq_ok {m : UpgradeTry} {u : Unit} :
    m.check = .ok u ↔ m.hops.length = 1 ∧ m.counterpartyFields.check = .ok () := by
  simp [UpgradeTry.check]

theorem UpgradeInit.validate_eq_ok {m : UpgradeInit} :
    m.validate s app = .ok () ↔ m.signer.isEmpty = false ∧ m.check = .ok () ∧
      ∃ c, (s.record m.id).channel = some c ∧ c.state = .opened ∧
        s.checkProposal m.fields c = .ok () ∧
      ∃ extras version, app.upgradeProposal .checkUpgradeInit m.fields = .ok (extras, version) ∧
        s.checkProposal (m.proposal version) c = .ok () := by
  simp [UpgradeInit.validate]

/-- Only an end with a proposal of its own weighs the two. -/
theorem UpgradeTry.crossing?_eq_ok {m : UpgradeTry} {c : ChannelEnd} {verdict : Option Precedence} :
    m.crossing? s c = .ok verdict ↔ c.state ≠ .initUpgrade ∧ none = verdict ∨
      c.state = .initUpgrade ∧ ∃ u, (s.record m.id).upgrade = some u ∧
      ∃ remote, c.remote = .ofEnd remote ∧
        some (upgradePrecedence ⟨c.upgradeSequence, u.fields, m.id⟩
          ⟨m.counterpartySequence, m.counterpartyFields, remote⟩) = verdict := by
  by_cases h : c.state = .initUpgrade <;> simp [UpgradeTry.crossing?, h]

section
variable [Digest]

theorem UpgradeTry.validate_eq_ok {m : UpgradeTry} :
    m.validate host s = .ok () ↔ m.signer.isEmpty = false ∧ m.check = .ok () ∧
      ∃ c, (s.record m.id).channel = some c ∧ (c.state = .opened ∨ c.state = .initUpgrade) ∧
      ∃ hop, c.hops.head? = some hop ∧
      ∃ conn, (s.connections.get? hop = some conn ∧ conn.state = .opened) ∧
      ∃ own, m.hops.head? = some own ∧
        (∃ conn', s.connections.get? own = some conn' ∧ conn'.state = .opened) ∧
      ∃ remote, c.remote = .ofEnd remote ∧
      ∃ verdict, m.crossing? s c = .ok verdict ∧ verdict ≠ some .ours ∧
      ∃ expected, c.expectedRemote m.id conn .initUpgrade m.counterpartySequence = .ok expected ∧
        conn.checkProofHeight host.clients m.proofHeight = .ok () ∧
        (host.clients.checkVerified conn.client m.proofHeight = .ok () ∧
          (conn.claimEnd m.proofChannel m.proofHeight remote expected).Verified) ∧
        conn.checkProofHeight host.clients m.proofHeight = .ok () ∧
        host.clients.checkVerified conn.client m.proofHeight = .ok () ∧
          (conn.claimUpgrade m.proofUpgrade m.proofHeight remote
            ⟨m.counterpartyFields, m.counterpartyTimeout, .zero⟩).Verified := by
  simp [UpgradeTry.validate, -Clients.checkVerified_eq_ok, -ChannelEnd.expectedRemote_eq_ok]

/-! ## Settling an upgrade -/

theorem UpgradeAck.validate_eq_ok {m : UpgradeAck} :
    m.validate host s = .ok () ↔ m.signer.isEmpty = false ∧
      ∃ c, (s.record m.id).channel = some c ∧ c.state = .initUpgrade ∧
        (∃ u, (s.record m.id).upgrade = some u) ∧ m.counterpartyUpgrade.fields.check = .ok () ∧
      ∃ hop, c.hops.head? = some hop ∧
      ∃ conn, (s.connections.get? hop = some conn ∧ conn.state = .opened) ∧
      ∃ remote, c.remote = .ofEnd remote ∧
      ∃ expected, c.expectedRemote m.id conn .tryUpgrade c.upgradeSequence = .ok expected ∧
        conn.checkProofHeight host.clients m.proofHeight = .ok () ∧
        (host.clients.checkVerified conn.client m.proofHeight = .ok () ∧
          (conn.claimEnd m.proofChannel m.proofHeight remote expected).Verified) ∧
        conn.checkProofHeight host.clients m.proofHeight = .ok () ∧
        host.clients.checkVerified conn.client m.proofHeight = .ok () ∧
          (conn.claimUpgrade m.proofUpgrade m.proofHeight remote m.counterpartyUpgrade).Verified := by
  simp [UpgradeAck.validate, -Clients.checkVerified_eq_ok, -ChannelEnd.expectedRemote_eq_ok]

theorem UpgradeConfirm.validate_eq_ok {m : UpgradeConfirm} :
    m.validate host s = .ok () ↔ m.signer.isEmpty = false ∧
      ∃ c, (s.record m.id).channel = some c ∧ c.state = .tryUpgrade ∧
        (m.counterpartyState = .flushing ∨ m.counterpartyState = .flushComplete) ∧
        (∃ u, (s.record m.id).upgrade = some u) ∧
      ∃ hop, c.hops.head? = some hop ∧
      ∃ conn, (s.connections.get? hop = some conn ∧ conn.state = .opened) ∧
      ∃ remote, c.remote = .ofEnd remote ∧
      ∃ expected, c.expectedRemote m.id conn m.counterpartyState c.upgradeSequence = .ok expected ∧
        conn.checkProofHeight host.clients m.proofHeight = .ok () ∧
        (host.clients.checkVerified conn.client m.proofHeight = .ok () ∧
          (conn.claimEnd m.proofChannel m.proofHeight remote expected).Verified) ∧
        conn.checkProofHeight host.clients m.proofHeight = .ok () ∧
        host.clients.checkVerified conn.client m.proofHeight = .ok () ∧
          (conn.claimUpgrade m.proofUpgrade m.proofHeight remote m.counterpartyUpgrade).Verified := by
  simp [UpgradeConfirm.validate, -Clients.checkVerified_eq_ok, -ChannelEnd.expectedRemote_eq_ok,
    Decidable.or_iff_not_imp_left]

end

/-! ## Concluding an upgrade -/

theorem UpgradeOpen.checkCounterparty_eq_ok {m : UpgradeOpen} {c : ChannelEnd} {u w : Upgrade}
    {x : Unit} : m.checkCounterparty c u w = .ok x ↔
      m.counterpartyChannel.state = .flushComplete ∧
        m.counterpartyChannel.upgradeSequence = c.upgradeSequence ∨
      (m.counterpartyChannel.state = .opened ∨ m.counterpartyChannel.state = .initUpgrade) ∧
        c.upgradeSequence ≤ m.counterpartyChannel.upgradeSequence ∧
        m.counterpartyChannel.fields = ⟨u.fields.order, w.fields.hops, u.fields.version⟩ := by
  cases h : m.counterpartyChannel.state <;>
    simp [UpgradeOpen.checkCounterparty, h, ChannelEnd.fields, and_comm]

theorem UpgradeCancel.accepts_iff {m : UpgradeCancel} {c : ChannelEnd} :
    m.accepts c = true ↔ c.upgradeSequence ≤ m.receipt.sequence ∧
      (c.state = .flushComplete → m.receipt.sequence = c.upgradeSequence) := by
  by_cases h : c.state = .flushComplete <;> simp [UpgradeCancel.accepts, h]
  intro heq
  rw [heq]
  exact UInt64.le_refl _

theorem UpgradeExpire.counterpartyDone_iff {m : UpgradeExpire} {c : ChannelEnd} {u : Upgrade} :
    m.counterpartyDone c u = true ↔
      m.counterpartyChannel.state = .flushComplete ∧
        m.counterpartyChannel.upgradeSequence = c.upgradeSequence ∨
      m.counterpartyChannel.state = .opened ∧
        c.upgradeSequence ≤ m.counterpartyChannel.upgradeSequence ∧
        m.counterpartyChannel.order = u.fields.order ∧
        m.counterpartyChannel.version = u.fields.version := by
  simp [UpgradeExpire.counterpartyDone, and_assoc]

section
variable [Digest]

theorem UpgradeOpen.validate_eq_ok {m : UpgradeOpen} :
    m.validate host s = .ok () ↔ m.signer.isEmpty = false ∧
      ∃ c, (s.record m.id).channel = some c ∧ c.state = .flushComplete ∧
      ∃ u, (s.record m.id).upgrade = some u ∧ ∃ w, (s.record m.id).counterpartyUpgrade = some w ∧
      ∃ hop, c.hops.head? = some hop ∧
      ∃ conn, (s.connections.get? hop = some conn ∧ conn.state = .opened) ∧
        m.counterpartyChannel.remote = .ofEnd m.id ∧ m.checkCounterparty c u w = .ok () ∧
      ∃ remote, c.remote = .ofEnd remote ∧
        conn.checkProofHeight host.clients m.proofHeight = .ok () ∧
        host.clients.checkVerified conn.client m.proofHeight = .ok () ∧
          (conn.claimEnd m.proof m.proofHeight remote m.counterpartyChannel).Verified := by
  simp [UpgradeOpen.validate, -Clients.checkVerified_eq_ok]

theorem UpgradeCancel.validate_eq_ok {m : UpgradeCancel} :
    m.validate host s = .ok () ↔ m.signer.isEmpty = false ∧
      ∃ c, (s.record m.id).channel = some c ∧ (∃ u, (s.record m.id).upgrade = some u) ∧
        m.accepts c = true ∧
      ∃ hop, c.hops.head? = some hop ∧
      ∃ conn, (s.connections.get? hop = some conn ∧ conn.state = .opened) ∧
      ∃ remote, c.remote = .ofEnd remote ∧
        conn.checkProofHeight host.clients m.proofHeight = .ok () ∧
        host.clients.checkVerified conn.client m.proofHeight = .ok () ∧
          (conn.claim m.proof m.proofHeight (.upgradeError remote) (some m.receipt.encode)).Verified := by
  simp [UpgradeCancel.validate, -Clients.checkVerified_eq_ok]

theorem UpgradeExpire.validate_eq_ok {m : UpgradeExpire} :
    m.validate host s = .ok () ↔ m.signer.isEmpty = false ∧
      ∃ c, (s.record m.id).channel = some c ∧
        c.state ∈ [.initUpgrade, .tryUpgrade, .flushing, .flushComplete] ∧
      ∃ u, (s.record m.id).upgrade = some u ∧ ∃ hop, c.hops.head? = some hop ∧
      ∃ conn, (s.connections.get? hop = some conn ∧ conn.state = .opened) ∧
        m.counterpartyChannel.remote = .ofEnd m.id ∧ m.counterpartyDone c u = false ∧
        conn.checkProofHeight host.clients m.proofHeight = .ok () ∧
      ∃ time, host.clients.consensusTime conn.client m.proofHeight = .ok time ∧
        u.timeout.hasElapsed m.proofHeight time = true ∧
      ∃ remote, c.remote = .ofEnd remote ∧
        conn.checkProofHeight host.clients m.proofHeight = .ok () ∧
        host.clients.checkVerified conn.client m.proofHeight = .ok () ∧
          (conn.claimEnd m.proof m.proofHeight remote m.counterpartyChannel).Verified := by
  simp [UpgradeExpire.validate, -Clients.checkVerified_eq_ok, -Clients.consensusTime_eq_ok]

end

end Message

end ChannelLayer
