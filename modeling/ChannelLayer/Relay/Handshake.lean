import ChannelLayer.Relay

/-!
# Relaying the handshakes

The steps of opening and closing a channel, from the proposal on `a` to the confirmation on `b`.
-/

set_option autoImplicit false

namespace ChannelLayer.Relay

variable [Digest]

/-- Proposes a channel on `a`; its identifier is read off the last event. -/
def openInit (port remotePort : PortId) (order : ChannelOrder) (version : Version) :
    RelayStep ChannelId := do
  onA (Chain.deliver (.openInit
    ⟨port, [Sample.connectionId], remotePort, order, version, Sample.signer⟩))
  match (← get).a.store.events.getLast? with
  | some (.openInit id ..) => return id.channel
  | _ => throw (.missingEvent "channel_open_init")

def openedChannel? : Event → Option ChannelId
  | .openTry info _ => some info.id.channel
  | _ => none

/-- Answers the proposal of `id` on `b`; the identifier is that of the last channel opened there. -/
def openTry (id : EndId) (remotePort : PortId) : RelayStep ChannelId := do
  let a := (← get).a
  let c ← query (a.store.channel id)
  deliverB (.openTry
    { port := remotePort, hops := [Sample.connectionId], counterparty := id
      counterpartyVersion := c.version, order := c.order, proof := a.prove (.channel id)
      proofHeight := a.host.height, signer := Sample.signer })
  match (← get).b.store.events.reverse.findSome? openedChannel? with
  | some channel => return channel
  | none => throw (.missingEvent "channel_open_try")

/-- Accepts on `a` the answer that `b` gave at its end `remote`. -/
def openAck (id remote : EndId) : RelayStep Unit := do
  let b := (← get).b
  let c ← query (b.store.channel remote)
  deliverA (.openAck
    { id, counterpartyChannel := remote.channel, counterpartyVersion := c.version
      proof := b.prove (.channel remote), proofHeight := b.host.height, signer := Sample.signer })

/-- Lets `b` know that the channel is open on `a`. -/
def openConfirm (id remote : EndId) : RelayStep Unit := do
  let a := (← get).a
  deliverB (.openConfirm
    { id := remote, proof := a.prove (.channel id), proofHeight := a.host.height
      signer := Sample.signer })

def closeInit (id : EndId) : RelayStep Unit :=
  onA (Chain.deliver (.closeInit ⟨id, Sample.signer⟩))

/-- Lets `b` know that the channel is closed on `a`. -/
def closeConfirm (id remote : EndId) : RelayStep Unit := do
  let a := (← get).a
  let c ← query (a.store.channel id)
  deliverB (.closeConfirm
    { id := remote, counterpartyUpgradeSequence := c.upgradeSequence
      proof := a.prove (.channel id), proofHeight := a.host.height, signer := Sample.signer })

/-- All four steps of opening a channel. -/
def openChannel (port remotePort : PortId) (order : ChannelOrder) (version : Version) :
    RelayStep (ChannelId × ChannelId) := do
  let channel ← openInit port remotePort order version
  let remote ← openTry ⟨port, channel⟩ remotePort
  openAck ⟨port, channel⟩ ⟨remotePort, remote⟩
  openConfirm ⟨port, channel⟩ ⟨remotePort, remote⟩
  return (channel, remote)

/-- Both steps of closing a channel. -/
def closeChannel (id remote : EndId) : RelayStep Unit := do
  closeInit id
  closeConfirm id remote

end ChannelLayer.Relay
