import ChannelLayer.Exec
import ChannelLayer.Host
import ChannelLayer.Packet.Commitment

/-!
# Sending a packet

The owner of a channel end sends packets in sequence. The chain commits to each one; the other chain
receives it on a proof of the commitment. No new packet is sent once the end has answered or settled an
upgrade.
-/

set_option autoImplicit false

namespace ChannelLayer

/-- Commits to a packet, after which the next one can be sent. -/
def Store.commit [Digest] (s : Store) (p : Packet) (nextSend : Sequence) : Store :=
  s.update p.source fun r =>
    { r with nextSend := some nextSend, commitments := r.commitments.insert p.sequence p.commitment }

namespace Packet

/-- The end that the packet is for, as the counterparty of the end it is sent from. -/
def receiver (p : Packet) : Counterparty := .ofEnd p.destination

/-- The end that the packet is from, as the counterparty of the end it is received at. -/
def sender (p : Packet) : Counterparty := .ofEnd p.source

/-- Whoever shows `handle` may send the packet now. The deadline must not have passed on the other chain
as far as its client knows. -/
def validateSend (p : Packet) (host : Host) (s : Store) (handle : Capability) :
    Except HandlerError Unit := do
  p.check
  let c ← s.channel p.source
  if !c.state.isSending then throw (.packet (.channel (.state .sending c.state)))
  if !s.authenticates handle p.source then
    throw (.host (.capabilityDenied (Path.capability p.source).text))
  c.checkRemote p.receiver
  let conn ← s.connection (← firstHop c.hops)
  let height ← host.clients.latestHeight conn.client
  let time ← host.clients.consensusTime conn.client height
  if p.timedOut height time then throw (.packet (.timeoutElapsed p.sequence height time))
  let next ← s.nextSend p.source
  if p.sequence ≠ next then throw (.packet (.sequenceMismatch next p.sequence))

def executeSend [Digest] (p : Packet) : EStateM HandlerError Store Unit := do
  let next ← (← get).nextSend p.source
  modify (·.commit p next.next)
  let c ← (← get).channel p.source
  let hop ← firstHop c.hops
  modify (·.log "success: packet send")
  modify (·.report (.sendPacket p c.order hop))

end Packet

end ChannelLayer
