import ChannelLayer.Sequence

/-!
# Store paths

What a chain keeps about its channels lies under rendered paths. The counterparty proves membership
against the same texts, so they are part of the protocol.
-/

set_option autoImplicit false

namespace ChannelLayer

inductive Path where
  | nextChannel
  | channel (id : EndId)
  | nextSend (id : EndId)
  | nextReceive (id : EndId)
  | nextAck (id : EndId)
  | commitment (id : EndId) (sequence : Sequence)
  | ack (id : EndId) (sequence : Sequence)
  | receipt (id : EndId) (sequence : Sequence)
  | upgrade (id : EndId)
  | counterpartyUpgrade (id : EndId)
  | upgradeError (id : EndId)
  | capability (id : EndId)
  deriving DecidableEq

namespace Path

/-- The part of a path that names the channel end. -/
def endText (id : EndId) : String := "ports/" ++ id.port.text ++ "/channels/" ++ id.channel.text

def packetText (id : EndId) (sequence : Sequence) : String :=
  endText id ++ "/sequences/" ++ sequence.text

def text : Path → String
  | .nextChannel => "nextChannelSequence"
  | .channel id => "channelEnds/" ++ endText id
  | .nextSend id => "nextSequenceSend/" ++ endText id
  | .nextReceive id => "nextSequenceRecv/" ++ endText id
  | .nextAck id => "nextSequenceAck/" ++ endText id
  | .commitment id sequence => "commitments/" ++ packetText id sequence
  | .ack id sequence => "acks/" ++ packetText id sequence
  | .receipt id sequence => "receipts/" ++ packetText id sequence
  | .upgrade id => "channelUpgrades/upgrades/" ++ endText id
  | .counterpartyUpgrade id => "channelUpgrades/counterpartyUpgrade/" ++ endText id
  | .upgradeError id => "channelUpgrades/upgradeError/" ++ endText id
  | .capability id => "capabilities/" ++ endText id

/-- The group that holds all packet commitments of a channel end. -/
def commitmentsText (id : EndId) : String := "commitments/" ++ endText id ++ "/sequences"

def toBytes (p : Path) : Bytes := .ofText p.text

end Path

end ChannelLayer
