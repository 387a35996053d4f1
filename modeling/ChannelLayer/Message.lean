import ChannelLayer.Acknowledgement
import ChannelLayer.Upgrade

/-!
# Messages

What a relayer hands to a chain: the steps of opening, closing and upgrading a channel, and the receipt,
acknowledgement and timeout of packets. A message names the end it is for and, where it reports on the
other chain, carries a proof of what that chain stores and the height the proof was taken at.
-/

set_option autoImplicit false

namespace ChannelLayer

namespace Message

structure OpenInit where
  port : PortId
  hops : List ConnectionId
  counterpartyPort : PortId
  order : ChannelOrder
  version : Version
  signer : Signer
  deriving DecidableEq

structure OpenTry where
  port : PortId
  hops : List ConnectionId
  counterparty : EndId
  counterpartyVersion : Version
  order : ChannelOrder
  proof : Bytes
  proofHeight : Height
  signer : Signer
  deriving DecidableEq

structure OpenAck where
  id : EndId
  counterpartyChannel : ChannelId
  counterpartyVersion : Version
  proof : Bytes
  proofHeight : Height
  signer : Signer
  deriving DecidableEq

structure OpenConfirm where
  id : EndId
  proof : Bytes
  proofHeight : Height
  signer : Signer
  deriving DecidableEq

structure CloseInit where
  id : EndId
  signer : Signer
  deriving DecidableEq

structure CloseConfirm where
  id : EndId
  counterpartyUpgradeSequence : UInt64
  proof : Bytes
  proofHeight : Height
  signer : Signer
  deriving DecidableEq

structure Receive where
  packet : Packet
  proof : Bytes
  proofHeight : Height
  signer : Signer
  deriving DecidableEq

structure Acknowledge where
  packet : Packet
  ack : Acknowledgement
  proof : Bytes
  proofHeight : Height
  signer : Signer
  deriving DecidableEq

structure Timeout where
  packet : Packet
  nextReceive : Sequence
  proofUnreceived : Bytes
  proofHeight : Height
  signer : Signer
  deriving DecidableEq

structure TimeoutOnClose where
  packet : Packet
  nextReceive : Sequence
  proofUnreceived : Bytes
  proofClosed : Bytes
  proofHeight : Height
  counterpartyUpgradeSequence : UInt64
  signer : Signer
  deriving DecidableEq

structure UpgradeInit where
  id : EndId
  fields : UpgradeFields
  timeout : UpgradeTimeout
  signer : Signer
  deriving DecidableEq

/-- `hops` is the connection that this end proposes; fields, timeout and sequence are the other end's. -/
structure UpgradeTry where
  id : EndId
  hops : List ConnectionId
  counterpartyFields : UpgradeFields
  counterpartyTimeout : UpgradeTimeout
  counterpartySequence : UInt64
  proofChannel : Bytes
  proofUpgrade : Bytes
  proofHeight : Height
  signer : Signer
  deriving DecidableEq

structure UpgradeAck where
  id : EndId
  counterpartyUpgrade : Upgrade
  proofChannel : Bytes
  proofUpgrade : Bytes
  proofHeight : Height
  signer : Signer
  deriving DecidableEq

structure UpgradeConfirm where
  id : EndId
  counterpartyState : ChannelState
  counterpartyUpgrade : Upgrade
  proofChannel : Bytes
  proofUpgrade : Bytes
  proofHeight : Height
  signer : Signer
  deriving DecidableEq

structure UpgradeOpen where
  id : EndId
  counterpartyChannel : ChannelEnd
  proof : Bytes
  proofHeight : Height
  signer : Signer
  deriving DecidableEq

structure UpgradeCancel where
  id : EndId
  receipt : ErrorReceipt
  proof : Bytes
  proofHeight : Height
  signer : Signer
  deriving DecidableEq

structure UpgradeExpire where
  id : EndId
  counterpartyChannel : ChannelEnd
  proof : Bytes
  proofHeight : Height
  signer : Signer
  deriving DecidableEq

end Message

inductive Message where
  | openInit (m : Message.OpenInit)
  | openTry (m : Message.OpenTry)
  | openAck (m : Message.OpenAck)
  | openConfirm (m : Message.OpenConfirm)
  | closeInit (m : Message.CloseInit)
  | closeConfirm (m : Message.CloseConfirm)
  | receive (m : Message.Receive)
  | acknowledge (m : Message.Acknowledge)
  | timeout (m : Message.Timeout)
  | timeoutOnClose (m : Message.TimeoutOnClose)
  | upgradeInit (m : Message.UpgradeInit)
  | upgradeTry (m : Message.UpgradeTry)
  | upgradeAck (m : Message.UpgradeAck)
  | upgradeConfirm (m : Message.UpgradeConfirm)
  | upgradeOpen (m : Message.UpgradeOpen)
  | upgradeCancel (m : Message.UpgradeCancel)
  | upgradeExpire (m : Message.UpgradeExpire)
  deriving DecidableEq

namespace Message

def signer : Message → Signer
  | .openInit m => m.signer
  | .openTry m => m.signer
  | .openAck m => m.signer
  | .openConfirm m => m.signer
  | .closeInit m => m.signer
  | .closeConfirm m => m.signer
  | .receive m => m.signer
  | .acknowledge m => m.signer
  | .timeout m => m.signer
  | .timeoutOnClose m => m.signer
  | .upgradeInit m => m.signer
  | .upgradeTry m => m.signer
  | .upgradeAck m => m.signer
  | .upgradeConfirm m => m.signer
  | .upgradeOpen m => m.signer
  | .upgradeCancel m => m.signer
  | .upgradeExpire m => m.signer

/-- The port whose application handles the message: that of the end it is for. -/
def port : Message → PortId
  | .openInit m => m.port
  | .openTry m => m.port
  | .openAck m => m.id.port
  | .openConfirm m => m.id.port
  | .closeInit m => m.id.port
  | .closeConfirm m => m.id.port
  | .receive m => m.packet.destination.port
  | .acknowledge m => m.packet.source.port
  | .timeout m => m.packet.source.port
  | .timeoutOnClose m => m.packet.source.port
  | .upgradeInit m => m.id.port
  | .upgradeTry m => m.id.port
  | .upgradeAck m => m.id.port
  | .upgradeConfirm m => m.id.port
  | .upgradeOpen m => m.id.port
  | .upgradeCancel m => m.id.port
  | .upgradeExpire m => m.id.port

/-- A proposal has valid fields and a deadline. -/
def UpgradeInit.check (m : UpgradeInit) : Except UpgradeError Unit := do
  m.fields.check
  if !m.timeout.isSet then throw .invalidTimeout

/-- An answer names one connection and reports valid fields. -/
def UpgradeTry.check (m : UpgradeTry) : Except UpgradeError Unit := do
  UpgradeFields.checkHops m.hops
  m.counterpartyFields.check

end Message

end ChannelLayer
