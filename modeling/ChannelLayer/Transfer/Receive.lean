import ChannelLayer.Exec
import ChannelLayer.Host
import ChannelLayer.Message
import ChannelLayer.Packet.Commitment
import ChannelLayer.Transfer.Send
import ChannelLayer.Verification

/-!
# Receiving a packet

A packet is received on a proof that the other chain committed to it. An unordered end remembers each
packet by a receipt, an ordered one by a counter, and a packet that was received before is passed over in
silence, so that relayers may race. The application takes the packet and answers; the chain commits to
the answer.
-/

set_option autoImplicit false

namespace ChannelLayer

/-- The states in which an end takes packets. -/
def receivingStates : List ChannelState :=
  [.opened, .initUpgrade, .tryUpgrade, .flushing, .flushComplete]

namespace Store

/-- The packet with this sequence has been received at an end with this ordering. -/
def hasReceived (s : Store) (id : EndId) (order : ChannelOrder) (n : Sequence) :
    Except HandlerError Bool :=
  match order with
  | .unspecified => .ok false
  | .unordered => .ok (s.receipt id n = .received)
  | .ordered => do return n < (← s.nextReceive id)

/-- An unordered end remembers the packet. -/
def addReceipt (s : Store) (id : EndId) (n : Sequence) : Store :=
  s.update id fun r => { r with receipts := r.receipts.insert n .received }

/-- An ordered end waits for the packet after `n`. -/
def setNextReceive (s : Store) (id : EndId) (n : Sequence) : Store :=
  s.update id fun r => { r with nextReceive := some n }

/-- Commits to an answer. -/
def addAck [Digest] (s : Store) (id : EndId) (n : Sequence) (ack : Acknowledgement) : Store :=
  s.update id fun r => { r with acks := r.acks.insert n ack.commitment }

end Store

namespace Message.Receive

variable [Digest]

/-- A packet that the other end sent after it settled an upgrade belongs to the upgraded channel. -/
def checkNotFlushed (m : Receive) (s : Store) : Except PacketError Unit :=
  match (s.record m.packet.destination).counterpartyUpgrade with
  | some u =>
    if u.nextSend ≤ m.packet.sequence then .error (.sentAfterUpgrade m.packet.sequence u.nextSend)
    else .ok ()
  | none => .ok ()

/-- Ordered packets leave no gap. -/
def checkOrder (m : Receive) (s : Store) (order : ChannelOrder) : Except HandlerError Unit :=
  match order with
  | .ordered => do
    let next ← s.nextReceive m.packet.destination
    if next < m.packet.sequence then throw (.packet (.sequenceMismatch next m.packet.sequence))
  | .unordered => .ok ()
  | .unspecified => .error (.channel (.order .specified order))

def validate (m : Receive) (host : Host) (s : Store) : Except HandlerError Unit := do
  let p := m.packet
  m.signer.check
  let c ← s.channel p.destination
  c.checkStateIn receivingStates
  m.checkNotFlushed s
  c.checkRemote p.sender
  let conn ← s.openConnection (← firstHop c.hops)
  if p.timedOut host.height host.time then
    throw (.packet (.timeoutElapsed p.sequence host.height host.time))
  conn.checkProofHeight host.clients m.proofHeight
  ((conn.verify host.clients m.proof m.proofHeight (.commitment p.source p.sequence)
    p.commitment).mapError (PacketError.verification p.sequence) : Except PacketError Unit)
  m.checkOrder s c.order

/-- What an end remembers of a packet it takes. -/
def remember (m : Receive) (order : ChannelOrder) : Exec Unit := do
  let id := m.packet.destination
  match order with
  | .unordered => Exec.update (·.addReceipt id m.packet.sequence)
  | .ordered =>
    let next ← (← Exec.store).nextReceive id
    Exec.update (·.setNextReceive id next.next)
  | .unspecified => pure ()

/-- Hands the packet to the application. -/
def take (m : Receive) (c : ChannelEnd) : Exec Unit := do
  let p := m.packet
  let (extras, ack) := (← Exec.app).receive p
  m.remember c.order
  Exec.update (·.addAck p.destination p.sequence ack)
  Exec.log "success: packet receive"
  Exec.log "success: packet write acknowledgement"
  let hop ← firstHop c.hops
  Exec.report (.receivePacket p c.order hop)
  Exec.report (.writeAck p ack hop)
  Exec.addExtras extras

def execute (m : Receive) : Exec Unit := do
  let c ← (← Exec.store).channel m.packet.destination
  if ← (← Exec.store).hasReceived m.packet.destination c.order m.packet.sequence then return
  m.take c

end Message.Receive

end ChannelLayer
