import ChannelLayer.Acknowledgement
import ChannelLayer.Text.Hex
import ChannelLayer.Upgrade

/-!
# Events

A chain emits events for relayers to follow. Each has a type and a list of attributes, whose order is
part of what a relayer reads.
-/

set_option autoImplicit false

namespace ChannelLayer

abbrev Attribute := String × String

/-- An event of an application. -/
structure ModuleEvent where
  kind : String
  attributes : List Attribute
  deriving DecidableEq

/-- An end with what it is joined to. -/
structure EndInfo where
  id : EndId
  remote : Counterparty
  connection : ConnectionId
  deriving DecidableEq

/-- An end that is being upgraded. -/
structure UpgradeInfo where
  id : EndId
  remote : Counterparty
  upgradeSequence : UInt64
  deriving DecidableEq

/-- The steps of an upgrade that report its fields. -/
inductive UpgradeStep where
  | init
  | tried
  | ack
  | confirm
  | opened
  deriving DecidableEq

inductive Event where
  | channelMessage
  | moduleMessage (name : String)
  | application (e : ModuleEvent)
  | openInit (id : EndId) (remotePort : PortId) (connection : ConnectionId) (version : Version)
  | openTry (info : EndInfo) (version : Version)
  | openAck (info : EndInfo)
  | openConfirm (info : EndInfo)
  | closeInit (info : EndInfo)
  | closeConfirm (info : EndInfo)
  | channelClosed (info : EndInfo) (order : ChannelOrder)
  | sendPacket (packet : Packet) (order : ChannelOrder) (connection : ConnectionId)
  | receivePacket (packet : Packet) (order : ChannelOrder) (connection : ConnectionId)
  | writeAck (packet : Packet) (ack : Acknowledgement) (connection : ConnectionId)
  | acknowledgePacket (packet : Packet) (order : ChannelOrder) (connection : ConnectionId)
  | timeoutPacket (packet : Packet) (order : ChannelOrder)
  | upgrade (step : UpgradeStep) (info : UpgradeInfo) (fields : UpgradeFields)
  | upgradeTimeout (info : UpgradeInfo)
  | upgradeCancelled (info : UpgradeInfo)
  | upgradeError (info : UpgradeInfo) (state : ChannelState) (receipt : ErrorReceipt)
  deriving DecidableEq

def Counterparty.channelText (c : Counterparty) : String :=
  match c.channel with
  | some channel => channel.text
  | none => ""

def UpgradeInfo.ofEnd (id : EndId) (c : ChannelEnd) : UpgradeInfo := ⟨id, c.remote, c.upgradeSequence⟩

namespace Event

def kind : Event → String
  | .channelMessage | .moduleMessage _ => "message"
  | .application e => e.kind
  | .openInit .. => "channel_open_init"
  | .openTry .. => "channel_open_try"
  | .openAck .. => "channel_open_ack"
  | .openConfirm .. => "channel_open_confirm"
  | .closeInit .. => "channel_close_init"
  | .closeConfirm .. => "channel_close_confirm"
  | .channelClosed .. => "channel_close"
  | .sendPacket .. => "send_packet"
  | .receivePacket .. => "recv_packet"
  | .writeAck .. => "write_acknowledgement"
  | .acknowledgePacket .. => "acknowledge_packet"
  | .timeoutPacket .. => "timeout_packet"
  | .upgrade .init .. => "channel_upgrade_init"
  | .upgrade .tried .. => "channel_upgrade_try"
  | .upgrade .ack .. => "channel_upgrade_ack"
  | .upgrade .confirm .. => "channel_upgrade_confirm"
  | .upgrade .opened .. => "channel_upgrade_open"
  | .upgradeTimeout .. => "channel_upgrade_timeout"
  | .upgradeCancelled .. => "channel_upgrade_cancelled"
  | .upgradeError .. => "channel_upgrade_error"

def endAttributes (id : EndId) (remote : Counterparty) : List Attribute :=
  [("port_id", id.port.text), ("channel_id", id.channel.text),
    ("counterparty_port_id", remote.port.text), ("counterparty_channel_id", remote.channelText)]

def infoAttributes (i : EndInfo) : List Attribute :=
  endAttributes i.id i.remote ++ [("connection_id", i.connection.text)]

def packetAttributes (p : Packet) : List Attribute :=
  [("packet_data_hex", Hex.upper p.data),
    ("packet_timeout_height", p.timeoutHeight.text),
    ("packet_timeout_timestamp", decimal p.timeoutTime.toNanos),
    ("packet_sequence", p.sequence.text),
    ("packet_src_port", p.source.port.text),
    ("packet_src_channel", p.source.channel.text),
    ("packet_dst_port", p.destination.port.text),
    ("packet_dst_channel", p.destination.channel.text)]

def upgradeAttributes (i : UpgradeInfo) : List Attribute :=
  endAttributes i.id i.remote ++ [("upgrade_sequence", decimal i.upgradeSequence)]

def orderAttribute (order : ChannelOrder) : Attribute := ("packet_channel_ordering", order.text)

def attributes : Event → List Attribute
  | .channelMessage => [("module", "ibc_channel")]
  | .moduleMessage name => [("module", name)]
  | .application e => e.attributes
  | .openInit id remotePort connection version =>
    infoAttributes ⟨id, ⟨remotePort, none⟩, connection⟩ ++ [("version", version.text)]
  | .openTry info version => infoAttributes info ++ [("version", version.text)]
  | .openAck info | .openConfirm info | .closeInit info | .closeConfirm info => infoAttributes info
  | .channelClosed info order => infoAttributes info ++ [orderAttribute order]
  | .sendPacket packet order connection
  | .receivePacket packet order connection
  | .acknowledgePacket packet order connection =>
    packetAttributes packet ++ [orderAttribute order, ("packet_connection", connection.text)]
  | .writeAck packet ack connection =>
    packetAttributes packet
      ++ [("packet_ack_hex", Hex.upper ack.bytes), ("packet_connection", connection.text)]
  | .timeoutPacket packet order => packetAttributes packet ++ [orderAttribute order]
  | .upgrade _ info fields =>
    upgradeAttributes info
      ++ [("upgrade_ordering", fields.order.text),
        ("upgrade_connection_hops", ",".intercalate (fields.hops.map ConnectionId.text)),
        ("upgrade_version", fields.version.text)]
  | .upgradeTimeout info | .upgradeCancelled info => upgradeAttributes info
  | .upgradeError info state receipt =>
    upgradeAttributes info ++ [("channel_state", state.text), ("error_receipt", receipt.message)]

end Event

end ChannelLayer
