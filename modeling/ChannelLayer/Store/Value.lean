import ChannelLayer.Protobuf.Codec
import ChannelLayer.Store

/-!
# What a store proves

The bytes under each path, as the other chain expects to find them under proof. Counters are eight
bytes, ends and upgrades are in their wire form, digests are kept as they are. A receipt proves that a
packet was received, so one that says otherwise counts as absent.
-/

set_option autoImplicit false

namespace ChannelLayer.Store

def receiptValue : Receipt → Option Bytes
  | .received => some [1]
  | .none => Option.none

def valueAt? (s : Store) : Path → Option Bytes
  | .nextChannel => some (.ofUInt64 s.channelCounter)
  | .channel id => (s.record id).channel.map ChannelEnd.encode
  | .nextSend id => (s.record id).nextSend.map Sequence.toBytes
  | .nextReceive id => (s.record id).nextReceive.map Sequence.toBytes
  | .nextAck id => (s.record id).nextAck.map Sequence.toBytes
  | .commitment id n => (s.record id).commitments.get? n
  | .ack id n => (s.record id).acks.get? n
  | .receipt id n => ((s.record id).receipts.get? n).bind receiptValue
  | .upgrade id => (s.record id).upgrade.map Upgrade.encode
  | .counterpartyUpgrade id => (s.record id).counterpartyUpgrade.map Upgrade.encode
  | .upgradeError id => (s.record id).errorReceipt.map ErrorReceipt.encode
  | .capability id => (s.record id).capability.map fun c => .ofUInt64 c.index

end ChannelLayer.Store
