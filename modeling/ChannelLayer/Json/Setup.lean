import ChannelLayer.Chain
import ChannelLayer.Json.Value

/-!
# Reading the description of a chain

A chain to be set up is described by its clock, the prefix of its store and its applications, all of which
may be left out. A scripted application is described by its replies, under the names of the callbacks
that they answer.
-/

set_option autoImplicit false

namespace ChannelLayer

/-! ## Applications -/

def Callback.ofName? : String → Option Callback
  | "on_chan_open_init_validate" => some .checkOpenInit
  | "on_chan_open_init_execute" => some .openInit
  | "on_chan_open_try_validate" => some .checkOpenTry
  | "on_chan_open_try_execute" => some .openTry
  | "active_channel" => some .activeChannel
  | "on_chan_open_try_reopen" => some .reopen
  | "on_chan_open_ack_validate" => some .checkOpenAck
  | "on_chan_open_ack_execute" => some .openAck
  | "on_chan_open_confirm_validate" => some .checkOpenConfirm
  | "on_chan_open_confirm_execute" => some .openConfirm
  | "on_chan_close_init_validate" => some .checkCloseInit
  | "on_chan_close_init_execute" => some .closeInit
  | "on_chan_close_confirm_validate" => some .checkCloseConfirm
  | "on_chan_close_confirm_execute" => some .closeConfirm
  | "on_recv_packet_execute" => some .receive
  | "on_acknowledgement_packet_validate" => some .checkAcknowledge
  | "on_acknowledgement_packet_execute" => some .acknowledge
  | "on_timeout_packet_validate" => some .checkTimeout
  | "on_timeout_packet_execute" => some .timeout
  | "on_chan_upgrade_init_validate" => some .checkUpgradeInit
  | "on_chan_upgrade_init_execute" => some .upgradeInit
  | "on_chan_upgrade_try" => some .upgradeTry
  | "on_chan_upgrade_ack" => some .upgradeAck
  | "on_chan_upgrade_open" => some .upgradeOpen
  | "on_chan_upgrade_restore" => some .upgradeRestore
  | _ => none

instance : OfJson ModuleEvent where
  ofJson? j := do
    let (kind, attributes) ← ofJson? j
    return ⟨kind, attributes⟩

instance : OfJson Reply where
  ofJson? j := return {
    failure := ← j.get? "fail"
    version := ← j.get? "version"
    extras := ⟨← j.getOr? "events" [], ← j.getOr? "log" []⟩
    ack := ← j.get? "ack"
    channel := ← j.get? "channel" }

namespace Script

/-- Adds the reply to the callback `name`; what is no callback is never asked for. -/
def withReply? (s : Script) (name : String) (j : Json) : Option Script :=
  match Callback.ofName? name with
  | none => some s
  | some c => return { s with replies := s.replies.insert c (← ofJson? j) }

def ofJson? : Json → Option Script
  | .null => some {}
  | .object members => members.foldlM (fun s m => s.withReply? m.1 m.2) {}
  | _ => none

end Script

instance : OfJson App where
  ofJson? j := do
    let kind : String ← j.get? "kind"
    match kind with
    | "dummy" =>
      return .dummy {
        rejectsUpgrades := ← j.getOr? "reject_upgrades" false
        failsReceives := ← j.getOr? "fail_receives" false
        upgradeVersion := ← j.get? "upgrade_version" }
    | "account_host" => return .accountHost {}
    | "scripted" => .scripted <$> Script.ofJson? (j.member "script")
    | _ => none

/-! ## Routers and chains -/

namespace Router

/-- The router with the described application on the described port. -/
def addJson? (r : Router) (j : Json) : Option Router :=
  return r.add (← j.get? "port") ⟨← j.get? "id"⟩ (← ofJson? j)

/-- One dummy application on the port of its name. -/
def withDummy : Router := Router.add {} ⟨"dummy"⟩ ⟨"dummy"⟩ (.dummy {})

/-- A router of the described applications; one with a dummy if none are described. -/
def ofJson? : Json → Option Router
  | .null => some withDummy
  | .array modules => modules.foldlM addJson? {}
  | _ => none

end Router

/-- Reads a height from its revision and its block, which need not be a valid height. -/
def Height.ofPair? (j : Json) : Option Height := do
  let (revision, block) ← ofJson? j
  return ⟨revision, block⟩

namespace Host

/-- What is not described is as in the host without a description. -/
def ofJson? (j : Json) : Option Host := do
  let h : Host := {}
  let height ← match j.member "height" with
    | .null => some h.height
    | pair => Height.ofPair? pair
  let start : Option String ← j.get? "prefix"
  return { h with
    height
    time := ⟨← j.getOr? "timestamp" h.time.nanos⟩
    blockTime := ← j.getOr? "block_time" h.blockTime
    storePrefix := (start.map Bytes.ofText).getD h.storePrefix }

end Host

instance : OfJson Chain where
  ofJson? j := return {
    host := ← Host.ofJson? j
    router := ← Router.ofJson? (j.member "modules") }

end ChannelLayer
