import ChannelLayer.Relay

/-!
# Relaying packets

A packet goes from `a` to `b`, and its answer, or the proof that it never arrived, goes back.
-/

set_option autoImplicit false

namespace ChannelLayer.Relay

variable [Digest]

/-- The owner of the channel sends a packet in a block of its own. -/
def send (p : Packet) : RelayStep Unit := do
  let some handle := ((← get).a.store.record p.source).capability | throw (.noCapability p.source)
  onA (Chain.send handle p)
  modify fun r => { r with a := r.a.advanceBlock }

def writtenAck? : Event → Option Acknowledgement
  | .writeAck _ ack _ => some ack
  | _ => none

/-- Hands the packet to `b`; the answer is read off the events of this step. -/
def receive (p : Packet) : RelayStep Acknowledgement := do
  let r ← get
  deliverB (.receive
    { packet := p, proof := r.a.prove (.commitment p.source p.sequence)
      proofHeight := r.a.host.height, signer := Sample.signer })
  match ((← get).b.store.events.drop r.b.store.events.length).findSome? writtenAck? with
  | some ack => return ack
  | none => throw (.missingEvent "write_acknowledgement")

/-- Brings the answer of `b` to `a`. -/
def acknowledge (p : Packet) (ack : Acknowledgement) : RelayStep Unit := do
  let b := (← get).b
  deliverA (.acknowledge
    { packet := p, ack, proof := b.prove (.ack p.destination p.sequence)
      proofHeight := b.host.height, signer := Sample.signer })

/-- The proof that `b` has not received the packet, with the receive counter it shows. -/
def proveUnreceived (p : Packet) : RelayStep (Bytes × Sequence) := do
  let r ← get
  let c ← query (r.a.store.channel p.source)
  match c.order with
  | .ordered =>
    let next ← query (r.b.store.nextReceive p.destination)
    return (r.b.prove (.nextReceive p.destination), next)
  | _ => return (r.b.prove (.receipt p.destination p.sequence), p.sequence)

def timeout (p : Packet) : RelayStep Unit := do
  let (proofUnreceived, nextReceive) ← proveUnreceived p
  deliverA (.timeout
    { packet := p, nextReceive, proofUnreceived
      proofHeight := (← get).b.host.height, signer := Sample.signer })

/-- Times a packet out because `b` has closed its end. -/
def timeoutOnClose (p : Packet) : RelayStep Unit := do
  let (proofUnreceived, nextReceive) ← proveUnreceived p
  let b := (← get).b
  let c ← query (b.store.channel p.destination)
  deliverA (.timeoutOnClose
    { packet := p, nextReceive, proofUnreceived, proofClosed := b.prove (.channel p.destination)
      proofHeight := b.host.height, counterpartyUpgradeSequence := c.upgradeSequence
      signer := Sample.signer })

/-- A packet there and its answer back. -/
def roundTrip (p : Packet) : RelayStep Acknowledgement := do
  send p
  let ack ← receive p
  acknowledge p ack
  return ack

end ChannelLayer.Relay
