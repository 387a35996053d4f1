import ChannelLayer.Message
import ChannelLayer.Packet.Commitment
import ChannelLayer.Transfer.Send
import ChannelLayer.Upgrading.Attempt
import ChannelLayer.Verification

/-!
# Settling a packet

A packet in flight is settled once: by the answer of the other chain, or by a proof that the other chain
did not receive it before its deadline or before its end was closed. An ordered channel cannot go on
without a packet, so a timeout closes it. The last packet to be settled lets a flushing end finish.
-/

set_option autoImplicit false

namespace ChannelLayer

/-- The states in which an end still settles its packets. -/
def settlingStates : List ChannelState := [.opened, .initUpgrade, .tryUpgrade, .flushing]

namespace Store

/-- The packet was sent from this chain and is in flight. -/
def checkInFlight [Digest] (s : Store) (p : Packet) : Except HandlerError Unit := do
  let stored ← s.commitment p.source p.sequence
  if stored ≠ p.commitment then throw (.packet (.incorrectCommitment p.sequence))

/-- The packet is no longer in flight. -/
def settle (s : Store) (p : Packet) : Store :=
  s.update p.source fun r => { r with commitments := r.commitments.erase p.sequence }

/-- An ordered end waits for the answer to the packet after `n`. -/
def setNextAck (s : Store) (id : EndId) (n : Sequence) : Store :=
  s.update id fun r => { r with nextAck := some n }

end Store

namespace Packet

variable [Digest]

/-- The other chain has not received the packet: an ordered end proves it by its counter, an unordered
one by the absence of a receipt. -/
def verifyUnreceived (p : Packet) (clients : Clients) (conn : ConnectionEnd) (order : ChannelOrder)
    (nextReceive : Sequence) (proof : Bytes) (proofHeight : Height) : Except HandlerError Unit :=
  match order with
  | .ordered => do
    if p.sequence < nextReceive then throw (.packet (.alreadyReceived p.sequence nextReceive))
    ((conn.verify clients proof proofHeight (.nextReceive p.destination) nextReceive.toBytes).mapError
      (PacketError.verification p.sequence) : Except PacketError Unit)
  | .unordered =>
    ((conn.verifyAbsence clients proof proofHeight (.receipt p.destination p.sequence)).mapError
      (PacketError.verification p.sequence)).mapError .packet
  | .unspecified => .error (.channel (.order .specified order))

omit [Digest] in
/-- The packet is too late for a chain at the height and time of the proof. -/
def checkTimedOut (p : Packet) (height : Height) (time : Timestamp) : Except PacketError Unit :=
  if p.timedOut height time then .ok ()
  else .error (.timeoutNotReached p.timeoutHeight height p.timeoutTime time)

end Packet

namespace Exec

/-- An upgrade does not outlive its channel. -/
def dropUpgrade (id : EndId) (c : ChannelEnd) : Exec Unit := do
  if c.state.isUpgrading then
    writeReceipt id c .channelClosed
    update (·.clearUpgrade id)

/-- Settles a packet that was not received in time. -/
def timeOut (host : Host) (p : Packet) : Exec Unit := do
  let c ← (← store).channel p.source
  let extras ← ((← app).settles .timeout : Except PacketError Extras)
  update (·.settle p)
  if c.order = .ordered then
    dropUpgrade p.source c
    setChannel p.source { c with state := .closed }
  log "success: packet timeout"
  report (.timeoutPacket p c.order)
  if c.order = .ordered then
    report (.channelClosed ⟨p.source, c.remote, ← firstHop c.hops⟩ c.order)
  addExtras extras
  if c.state = .flushing ∧ c.order = .unordered then completeFlush host p.source

end Exec

namespace Message

/-- An ordered end takes answers in sequence. -/
def Acknowledge.checkOrder (m : Acknowledge) (s : Store) (order : ChannelOrder) :
    Except HandlerError Unit := do
  if order = .ordered then
    let next ← s.nextAck m.packet.source
    if m.packet.sequence ≠ next then throw (.packet (.sequenceMismatch next m.packet.sequence))

def Acknowledge.validate [Digest] (m : Acknowledge) (host : Host) (s : Store) (app : App) :
    Except HandlerError Unit := do
  let p := m.packet
  m.signer.check
  let c ← s.channel p.source
  c.checkStateIn settlingStates
  c.checkRemote p.receiver
  let conn ← s.openConnection (← firstHop c.hops)
  s.checkInFlight p
  m.checkOrder s c.order
  conn.checkProofHeight host.clients m.proofHeight
  ((conn.verify host.clients m.proof m.proofHeight (.ack p.destination p.sequence)
    m.ack.commitment).mapError (PacketError.verification p.sequence) : Except PacketError Unit)
  app.permitsSettling .checkAcknowledge

def Acknowledge.execute (m : Acknowledge) (host : Host) : Exec Unit := do
  let p := m.packet
  let c ← (← Exec.store).channel p.source
  let hop ← firstHop c.hops
  let extras ← (← Exec.app).settles .acknowledge
  Exec.update (·.settle p)
  if c.order = .ordered then Exec.update (·.setNextAck p.source p.sequence.next)
  Exec.log "success: packet acknowledgement"
  Exec.report (.acknowledgePacket p c.order hop)
  Exec.addExtras extras
  if c.state = .flushing then Exec.completeFlush host p.source

def Timeout.validate [Digest] (m : Timeout) (host : Host) (s : Store) (app : App) :
    Except HandlerError Unit := do
  let p := m.packet
  m.signer.check
  let c ← s.channel p.source
  c.checkStateIn settlingStates
  c.checkRemote p.receiver
  let conn ← s.connection (← firstHop c.hops)
  s.checkInFlight p
  conn.checkProofHeight host.clients m.proofHeight
  let time ← host.clients.consensusTime conn.client m.proofHeight
  p.checkTimedOut m.proofHeight time
  p.verifyUnreceived host.clients conn c.order m.nextReceive m.proofUnreceived m.proofHeight
  app.permitsSettling .checkTimeout

def Timeout.execute (m : Timeout) (host : Host) : Exec Unit := Exec.timeOut host m.packet

def TimeoutOnClose.validate [Digest] (m : TimeoutOnClose) (host : Host) (s : Store) (app : App) :
    Except HandlerError Unit := do
  let p := m.packet
  m.signer.check
  let c ← s.channel p.source
  c.checkRemote p.receiver
  s.checkInFlight p
  let conn ← s.connection (← firstHop c.hops)
  conn.checkProofHeight host.clients m.proofHeight
  let remote ← c.remoteEnd
  let remoteHop ← conn.remoteConnection
  let expected ← ChannelEnd.checked
    ⟨.closed, c.order, .ofEnd p.source, [remoteHop], c.version, m.counterpartyUpgradeSequence⟩
  conn.verifyEnd host.clients m.proofClosed m.proofHeight remote expected
  p.verifyUnreceived host.clients conn c.order m.nextReceive m.proofUnreceived m.proofHeight
  app.permitsSettling .checkTimeout

def TimeoutOnClose.execute (m : TimeoutOnClose) (host : Host) : Exec Unit :=
  Exec.timeOut host m.packet

end Message

end ChannelLayer
