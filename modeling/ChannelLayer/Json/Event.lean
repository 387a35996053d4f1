import ChannelLayer.Event
import ChannelLayer.Json.Value

/-!
# JSON forms of events

An event is written as its type and the list of its attributes. It is read as a variant with the values
that it reports, in the names of which `a` and `b` are the two chains of the channel.
-/

set_option autoImplicit false

namespace ChannelLayer

instance : ToJson Event := ⟨fun e => toJson (e.kind, e.attributes)⟩

namespace Event

/-- Reads an end whose own members end in `own` and those of its counterparty in `other`. -/
def endInfo? (j : Json) (own other : String) : Option EndInfo :=
  return {
    id := ← EndId.ofMembers? j ("port_id_on_" ++ own) ("chan_id_on_" ++ own)
    remote := ⟨← j.get? ("port_id_on_" ++ other), ← j.get? ("chan_id_on_" ++ other)⟩
    connection := ← j.get? ("conn_id_on_" ++ own) }

def upgradeInfo? (j : Json) : Option UpgradeInfo :=
  let j := j.member "attributes"
  return {
    id := ← EndId.ofMembers? j "port_id" "channel_id"
    remote := ⟨← j.get? "counterparty_port_id", ← j.get? "counterparty_channel_id"⟩
    upgradeSequence := ← j.get? "upgrade_sequence" }

def upgradeStep? (step : UpgradeStep) (j : Json) : Option Event :=
  return .upgrade step (← upgradeInfo? j) (← j.get? "upgrade_fields")

def application? (j : Json) : Option Event := do
  let attributes : List Json ← j.get? "attributes"
  return .application
    ⟨← j.get? "kind", ← attributes.mapM fun a => return (← a.get? "key", ← a.get? "value")⟩

/-- Reads the event named `name`. -/
def ofVariant? (name : String) (j : Json) : Option Event := do
  match name with
  | "OpenInitChannel" =>
    let info ← endInfo? j "a" "b"
    return .openInit info.id info.remote.port info.connection (← j.get? "version_on_a")
  | "OpenTryChannel" => return .openTry (← endInfo? j "b" "a") (← j.get? "version_on_b")
  | "OpenAckChannel" => return .openAck (← endInfo? j "a" "b")
  | "OpenConfirmChannel" => return .openConfirm (← endInfo? j "b" "a")
  | "CloseInitChannel" => return .closeInit (← endInfo? j "a" "b")
  | "CloseConfirmChannel" => return .closeConfirm (← endInfo? j "b" "a")
  | "ChannelClosed" => return .channelClosed (← endInfo? j "a" "b") (← j.get? "channel_ordering")
  | "SendPacket" =>
    return .sendPacket (← j.get? "packet") (← j.get? "channel_ordering") (← j.get? "src_connection_id")
  | "ReceivePacket" =>
    return .receivePacket (← j.get? "packet") (← j.get? "channel_ordering")
      (← j.get? "dst_connection_id")
  | "WriteAcknowledgement" =>
    return .writeAck (← j.get? "packet") ⟨← j.get? "acknowledgement"⟩ (← j.get? "dst_connection_id")
  | "AcknowledgePacket" =>
    return .acknowledgePacket (← j.get? "packet") (← j.get? "channel_ordering")
      (← j.get? "src_connection_id")
  | "TimeoutPacket" => return .timeoutPacket (← j.get? "packet") (← j.get? "channel_ordering")
  | "UpgradeInitChannel" => upgradeStep? .init j
  | "UpgradeTryChannel" => upgradeStep? .tried j
  | "UpgradeAckChannel" => upgradeStep? .ack j
  | "UpgradeConfirmChannel" => upgradeStep? .confirm j
  | "UpgradeOpenChannel" => upgradeStep? .opened j
  | "UpgradeTimeoutChannel" => return .upgradeTimeout (← upgradeInfo? j)
  | "UpgradeCancelledChannel" => return .upgradeCancelled (← upgradeInfo? j)
  | "UpgradeErrorChannel" =>
    return .upgradeError (← upgradeInfo? j) (← j.get? "channel_state") (← j.get? "error_receipt")
  | "Module" => application? j
  | "Message" =>
    match j with
    | .string _ => return .channelMessage
    | _ => return .moduleMessage (← j.get? "Module")
  | _ => none

end Event

instance : OfJson Event where
  ofJson? j := do
    let (name, j) ← j.variant?
    Event.ofVariant? name j

end ChannelLayer
