import ChannelLayer.Json.Value
import ChannelLayer.Message

/-!
# Reading messages from JSON

A message is a value inside two variants, that of its group and its own. The chain that sends the
packets of a channel, or opens it, is called `a` in the names of members and the other one `b`;
steps that either chain may take name their own end without a letter.
-/

set_option autoImplicit false

namespace ChannelLayer

namespace Message

def OpenInit.ofJson? (j : Json) : Option OpenInit :=
  return {
    port := ← j.get? "port_id_on_a"
    hops := ← j.get? "connection_hops_on_a"
    counterpartyPort := ← j.get? "port_id_on_b"
    order := ← j.get? "ordering"
    version := ← j.get? "version_proposal"
    signer := ← j.get? "signer" }

def OpenTry.ofJson? (j : Json) : Option OpenTry :=
  return {
    port := ← j.get? "port_id_on_b"
    hops := ← j.get? "connection_hops_on_b"
    counterparty := ← EndId.ofMembers? j "port_id_on_a" "chan_id_on_a"
    counterpartyVersion := ← j.get? "version_supported_on_a"
    order := ← j.get? "ordering"
    proof := ← j.get? "proof_chan_end_on_a"
    proofHeight := ← j.get? "proof_height_on_a"
    signer := ← j.get? "signer" }

def OpenAck.ofJson? (j : Json) : Option OpenAck :=
  return {
    id := ← EndId.ofMembers? j "port_id_on_a" "chan_id_on_a"
    counterpartyChannel := ← j.get? "chan_id_on_b"
    counterpartyVersion := ← j.get? "version_on_b"
    proof := ← j.get? "proof_chan_end_on_b"
    proofHeight := ← j.get? "proof_height_on_b"
    signer := ← j.get? "signer" }

def OpenConfirm.ofJson? (j : Json) : Option OpenConfirm :=
  return {
    id := ← EndId.ofMembers? j "port_id_on_b" "chan_id_on_b"
    proof := ← j.get? "proof_chan_end_on_a"
    proofHeight := ← j.get? "proof_height_on_a"
    signer := ← j.get? "signer" }

def CloseInit.ofJson? (j : Json) : Option CloseInit :=
  return ⟨← EndId.ofMembers? j "port_id_on_a" "chan_id_on_a", ← j.get? "signer"⟩

def CloseConfirm.ofJson? (j : Json) : Option CloseConfirm :=
  return {
    id := ← EndId.ofMembers? j "port_id_on_b" "chan_id_on_b"
    counterpartyUpgradeSequence := ← j.get? "counterparty_upgrade_sequence"
    proof := ← j.get? "proof_chan_end_on_a"
    proofHeight := ← j.get? "proof_height_on_a"
    signer := ← j.get? "signer" }

def Receive.ofJson? (j : Json) : Option Receive :=
  return {
    packet := ← j.get? "packet"
    proof := ← j.get? "proof_commitment_on_a"
    proofHeight := ← j.get? "proof_height_on_a"
    signer := ← j.get? "signer" }

def Acknowledge.ofJson? (j : Json) : Option Acknowledge :=
  return {
    packet := ← j.get? "packet"
    ack := ⟨← j.get? "acknowledgement"⟩
    proof := ← j.get? "proof_acked_on_b"
    proofHeight := ← j.get? "proof_height_on_b"
    signer := ← j.get? "signer" }

def Timeout.ofJson? (j : Json) : Option Timeout :=
  return {
    packet := ← j.get? "packet"
    nextReceive := ← j.get? "next_seq_recv_on_b"
    proofUnreceived := ← j.get? "proof_unreceived_on_b"
    proofHeight := ← j.get? "proof_height_on_b"
    signer := ← j.get? "signer" }

def TimeoutOnClose.ofJson? (j : Json) : Option TimeoutOnClose :=
  return {
    packet := ← j.get? "packet"
    nextReceive := ← j.get? "next_seq_recv_on_b"
    proofUnreceived := ← j.get? "proof_unreceived_on_b"
    proofClosed := ← j.get? "proof_close_on_b"
    proofHeight := ← j.get? "proof_height_on_b"
    counterpartyUpgradeSequence := ← j.get? "counterparty_upgrade_sequence"
    signer := ← j.get? "signer" }

def UpgradeInit.ofJson? (j : Json) : Option UpgradeInit :=
  return {
    id := ← EndId.ofMembers? j "port_id_on_a" "chan_id_on_a"
    fields := ← j.get? "fields"
    timeout := ← j.get? "timeout"
    signer := ← j.get? "signer" }

def UpgradeTry.ofJson? (j : Json) : Option UpgradeTry :=
  return {
    id := ← EndId.ofMembers? j "port_id_on_b" "chan_id_on_b"
    hops := ← j.get? "proposed_connection_hops"
    counterpartyFields := ← j.get? "counterparty_upgrade_fields"
    counterpartyTimeout := ← j.get? "counterparty_upgrade_timeout"
    counterpartySequence := ← j.get? "counterparty_upgrade_sequence"
    proofChannel := ← j.get? "proof_chan_end_on_a"
    proofUpgrade := ← j.get? "proof_upgrade_on_a"
    proofHeight := ← j.get? "proof_height_on_a"
    signer := ← j.get? "signer" }

def UpgradeAck.ofJson? (j : Json) : Option UpgradeAck :=
  return {
    id := ← EndId.ofMembers? j "port_id_on_a" "chan_id_on_a"
    counterpartyUpgrade := ← j.get? "counterparty_upgrade"
    proofChannel := ← j.get? "proof_chan_end_on_b"
    proofUpgrade := ← j.get? "proof_upgrade_on_b"
    proofHeight := ← j.get? "proof_height_on_b"
    signer := ← j.get? "signer" }

def UpgradeConfirm.ofJson? (j : Json) : Option UpgradeConfirm :=
  return {
    id := ← EndId.ofMembers? j "port_id_on_b" "chan_id_on_b"
    counterpartyState := ← j.get? "counterparty_chan_state"
    counterpartyUpgrade := ← j.get? "counterparty_upgrade"
    proofChannel := ← j.get? "proof_chan_end_on_a"
    proofUpgrade := ← j.get? "proof_upgrade_on_a"
    proofHeight := ← j.get? "proof_height_on_a"
    signer := ← j.get? "signer" }

def UpgradeOpen.ofJson? (j : Json) : Option UpgradeOpen :=
  return {
    id := ← EndId.ofMembers? j "port_id" "chan_id"
    counterpartyChannel := ← j.get? "counterparty_channel"
    proof := ← j.get? "proof_chan_end_on_cp"
    proofHeight := ← j.get? "proof_height_on_cp"
    signer := ← j.get? "signer" }

def UpgradeCancel.ofJson? (j : Json) : Option UpgradeCancel :=
  return {
    id := ← EndId.ofMembers? j "port_id" "chan_id"
    receipt := ← j.get? "error_receipt"
    proof := ← j.get? "proof_error_receipt"
    proofHeight := ← j.get? "proof_height"
    signer := ← j.get? "signer" }

def UpgradeExpire.ofJson? (j : Json) : Option UpgradeExpire :=
  return {
    id := ← EndId.ofMembers? j "port_id" "chan_id"
    counterpartyChannel := ← j.get? "counterparty_channel"
    proof := ← j.get? "proof_chan_end_on_cp"
    proofHeight := ← j.get? "proof_height_on_cp"
    signer := ← j.get? "signer" }

/-- Reads the message named `name` of the group `group`. -/
def ofVariant? (group name : String) (j : Json) : Option Message :=
  match group, name with
  | "Channel", "OpenInit" => .openInit <$> OpenInit.ofJson? j
  | "Channel", "OpenTry" => .openTry <$> OpenTry.ofJson? j
  | "Channel", "OpenAck" => .openAck <$> OpenAck.ofJson? j
  | "Channel", "OpenConfirm" => .openConfirm <$> OpenConfirm.ofJson? j
  | "Channel", "CloseInit" => .closeInit <$> CloseInit.ofJson? j
  | "Channel", "CloseConfirm" => .closeConfirm <$> CloseConfirm.ofJson? j
  | "Packet", "Recv" => .receive <$> Receive.ofJson? j
  | "Packet", "Ack" => .acknowledge <$> Acknowledge.ofJson? j
  | "Packet", "Timeout" => .timeout <$> Timeout.ofJson? j
  | "Packet", "TimeoutOnClose" => .timeoutOnClose <$> TimeoutOnClose.ofJson? j
  | "Upgrade", "Init" => .upgradeInit <$> UpgradeInit.ofJson? j
  | "Upgrade", "Try" => .upgradeTry <$> UpgradeTry.ofJson? j
  | "Upgrade", "Ack" => .upgradeAck <$> UpgradeAck.ofJson? j
  | "Upgrade", "Confirm" => .upgradeConfirm <$> UpgradeConfirm.ofJson? j
  | "Upgrade", "Open" => .upgradeOpen <$> UpgradeOpen.ofJson? j
  | "Upgrade", "Cancel" => .upgradeCancel <$> UpgradeCancel.ofJson? j
  | "Upgrade", "Timeout" => .upgradeExpire <$> UpgradeExpire.ofJson? j
  | _, _ => none

end Message

instance : OfJson Message where
  ofJson? j := do
    let (group, j) ← j.variant?
    let (name, j) ← j.variant?
    Message.ofVariant? group name j

end ChannelLayer
