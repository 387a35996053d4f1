import ChannelLayer.Connection
import ChannelLayer.Json
import ChannelLayer.Packet
import ChannelLayer.Path
import ChannelLayer.Upgrade

/-!
# JSON forms of values

Identifiers, versions and signers are their text, sequences are numbers, bytes are arrays of numbers.
Reading checks the shape of a value only, not the rules that the value has to meet.
-/

set_option autoImplicit false

namespace ChannelLayer

/-! ## Names and numbers -/

instance : ToJson ClientId := ⟨fun i => toJson i.text⟩

instance : OfJson ClientId := ⟨fun j => ClientId.mk <$> ofJson? j⟩

instance : ToJson ConnectionId := ⟨fun i => toJson i.text⟩

instance : OfJson ConnectionId := ⟨fun j => ConnectionId.mk <$> ofJson? j⟩

instance : ToJson PortId := ⟨fun i => toJson i.text⟩

instance : OfJson PortId := ⟨fun j => PortId.mk <$> ofJson? j⟩

instance : ToJson ChannelId := ⟨fun i => toJson i.text⟩

instance : OfJson ChannelId := ⟨fun j => ChannelId.mk <$> ofJson? j⟩

instance : ToJson Version := ⟨fun v => toJson v.text⟩

instance : OfJson Version := ⟨fun j => Version.mk <$> ofJson? j⟩

instance : ToJson Signer := ⟨fun s => toJson s.text⟩

instance : OfJson Signer := ⟨fun j => Signer.mk <$> ofJson? j⟩

instance : ToJson Sequence := ⟨fun n => toJson n.number⟩

instance : OfJson Sequence := ⟨fun j => Sequence.mk <$> ofJson? j⟩

instance : ToJson Capability := ⟨fun c => toJson c.index⟩

instance : OfJson Capability := ⟨fun j => Capability.mk <$> ofJson? j⟩

/-- Reads the port and the channel of an end from two members. -/
def EndId.ofMembers? (j : Json) (port channel : String) : Option EndId :=
  return ⟨← j.get? port, ← j.get? channel⟩

instance : OfJson EndId := ⟨fun j => EndId.ofMembers? j "port" "channel"⟩

/-- Reads the path of the kind `kind`; only paths of packets have a sequence. -/
def Path.ofKind? (kind : String) (j : Json) : Option Path := do
  if kind = "next_channel_sequence" then return .nextChannel
  let id ← ofJson? j
  match kind with
  | "channel_end" => return .channel id
  | "seq_send" => return .nextSend id
  | "seq_recv" => return .nextReceive id
  | "seq_ack" => return .nextAck id
  | "channel_upgrade" => return .upgrade id
  | "counterparty_upgrade" => return .counterpartyUpgrade id
  | "upgrade_error" => return .upgradeError id
  | "capability" => return .capability id
  | "commitment" => return .commitment id (← j.get? "sequence")
  | "ack" => return .ack id (← j.get? "sequence")
  | "receipt" => return .receipt id (← j.get? "sequence")
  | _ => none

instance : OfJson Path where
  ofJson? j := do Path.ofKind? (← j.get? "kind") j

/-! ## Heights, times and deadlines -/

instance : ToJson Height where
  toJson h := .object [("revision_number", toJson h.revision), ("revision_height", toJson h.block)]

instance : OfJson Height where
  ofJson? j := return ⟨← j.get? "revision_number", ← j.get? "revision_height"⟩

instance : ToJson Timestamp := ⟨fun t => .object [("nanos", toJson t.nanos)]⟩

instance : OfJson Timestamp := ⟨fun j => Timestamp.mk <$> j.get? "nanos"⟩

instance : ToJson TimeoutHeight where
  toJson
    | .never => .string "Never"
    | .at h => .object [("At", toJson h)]

instance : OfJson TimeoutHeight where
  ofJson?
    | .string "Never" => some .never
    | j => .at <$> j.get? "At"

instance : ToJson TimeoutTimestamp where
  toJson
    | .never => .string "Never"
    | .at t => .object [("At", toJson t)]

instance : OfJson TimeoutTimestamp where
  ofJson?
    | .string "Never" => some .never
    | j => .at <$> j.get? "At"

/-! ## Channel ends -/

def ChannelState.all : List ChannelState :=
  [.uninitialized, .init, .tryOpen, .opened, .closed, .flushing, .flushComplete, .initUpgrade,
    .tryUpgrade]

def ChannelState.jsonName : ChannelState → String
  | .uninitialized => "Uninitialized"
  | .init => "Init"
  | .tryOpen => "TryOpen"
  | .opened => "Open"
  | .closed => "Closed"
  | .flushing => "Flushing"
  | .flushComplete => "FlushComplete"
  | .initUpgrade => "InitUpgrade"
  | .tryUpgrade => "TryUpgrade"

instance : ToJson ChannelState := ⟨fun s => toJson s.jsonName⟩

instance : OfJson ChannelState := ⟨Json.ofName? ChannelState.all ChannelState.jsonName⟩

def ChannelOrder.jsonName : ChannelOrder → String
  | .unspecified => "None"
  | .unordered => "Unordered"
  | .ordered => "Ordered"

instance : ToJson ChannelOrder := ⟨fun o => toJson o.jsonName⟩

instance : OfJson ChannelOrder :=
  ⟨Json.ofName? [.unspecified, .unordered, .ordered] ChannelOrder.jsonName⟩

instance : ToJson Counterparty where
  toJson c := .object [("port_id", toJson c.port), ("channel_id", toJson c.channel)]

instance : OfJson Counterparty where
  ofJson? j := return ⟨← j.get? "port_id", ← j.get? "channel_id"⟩

instance : ToJson ChannelEnd where
  toJson c := .object
    [("state", toJson c.state), ("ordering", toJson c.order), ("remote", toJson c.remote),
      ("connection_hops", toJson c.hops), ("version", toJson c.version),
      ("upgrade_sequence", toJson c.upgradeSequence)]

instance : OfJson ChannelEnd where
  ofJson? j := return {
    state := ← j.get? "state"
    order := ← j.get? "ordering"
    remote := ← j.get? "remote"
    hops := ← j.get? "connection_hops"
    version := ← j.get? "version"
    upgradeSequence := ← j.get? "upgrade_sequence" }

/-- A channel end with the identifiers it is stored under. -/
def ChannelEnd.identified (id : EndId) (c : ChannelEnd) : Json :=
  .object [("port_id", toJson id.port), ("channel_id", toJson id.channel), ("channel_end", toJson c)]

/-! ## Connection ends -/

def ConnectionState.jsonName : ConnectionState → String
  | .uninitialized => "Uninitialized"
  | .init => "Init"
  | .tryOpen => "TryOpen"
  | .opened => "Open"

instance : ToJson ConnectionState := ⟨fun s => toJson s.jsonName⟩

instance : OfJson ConnectionState :=
  ⟨Json.ofName? [.uninitialized, .init, .tryOpen, .opened] ConnectionState.jsonName⟩

instance : ToJson ConnectionEnd where
  toJson c := .object
    [("state", toJson c.state), ("client_id", toJson c.client),
      ("counterparty", .object
        [("client_id", toJson c.remote.client), ("connection_id", toJson c.remote.connection),
          ("prefix", .object [("bytes", toJson c.remote.storePrefix)])])]

instance : OfJson ConnectionEnd where
  ofJson? j :=
    let remote := j.member "counterparty"
    return {
      state := ← j.get? "state"
      client := ← j.get? "client_id"
      remote := {
        client := ← remote.get? "client_id"
        connection := ← remote.get? "connection_id"
        storePrefix := ← (remote.member "prefix").get? "bytes" } }

/-! ## Packets -/

instance : OfJson Packet where
  ofJson? j := return {
    sequence := ← j.get? "seq_on_a"
    source := ← EndId.ofMembers? j "port_id_on_a" "chan_id_on_a"
    destination := ← EndId.ofMembers? j "port_id_on_b" "chan_id_on_b"
    data := ← j.get? "data"
    timeoutHeight := ← j.get? "timeout_height_on_b"
    timeoutTime := ← j.get? "timeout_timestamp_on_b" }

def Receipt.jsonName : Receipt → String
  | .received => "Ok"
  | .none => "None"

instance : ToJson Receipt := ⟨fun r => toJson r.jsonName⟩

instance : OfJson Receipt := ⟨Json.ofName? [.received, .none] Receipt.jsonName⟩

/-! ## Upgrades -/

instance : ToJson UpgradeFields where
  toJson f := .object
    [("ordering", toJson f.order), ("connection_hops", toJson f.hops), ("version", toJson f.version)]

instance : OfJson UpgradeFields where
  ofJson? j := return ⟨← j.get? "ordering", ← j.get? "connection_hops", ← j.get? "version"⟩

instance : ToJson UpgradeTimeout where
  toJson t := .object [("height", toJson t.height), ("timestamp", toJson t.time)]

instance : OfJson UpgradeTimeout where
  ofJson? j := return ⟨← j.get? "height", ← j.get? "timestamp"⟩

instance : ToJson Upgrade where
  toJson u := .object
    [("fields", toJson u.fields), ("timeout", toJson u.timeout),
      ("next_sequence_send", toJson u.nextSend)]

instance : OfJson Upgrade where
  ofJson? j := return ⟨← j.get? "fields", ← j.get? "timeout", ← j.get? "next_sequence_send"⟩

instance : ToJson ErrorReceipt where
  toJson r := .object [("sequence", toJson r.sequence), ("message", toJson r.message)]

instance : OfJson ErrorReceipt where
  ofJson? j := return ⟨← j.get? "sequence", ← j.get? "message"⟩

end ChannelLayer
