import ChannelLayer.App.AccountHost
import ChannelLayer.App.Dummy
import ChannelLayer.App.Script

/-!
# Applications

The kinds of application a port can be bound to, and what each of them answers. Only the opening of a
channel from the other chain changes an application.
-/

set_option autoImplicit false

namespace ChannelLayer

inductive App where
  | dummy (a : DummyApp)
  | accountHost (a : AccountHost)
  | scripted (s : Script)
  deriving DecidableEq

namespace App

/-- Whether the application lets a step pass that needs no answer from it. -/
def permits (a : App) (c : Callback) : Except ChannelError Unit :=
  match a with
  | .dummy _ | .accountHost _ => .ok ()
  | .scripted s => (s.reply c).permit

/-- The application takes note of a step that needs no answer from it. -/
def notes (a : App) (c : Callback) : Except ChannelError Extras :=
  match a with
  | .dummy _ | .accountHost _ => .ok {}
  | .scripted s => do
    (s.reply c).permit
    return (s.reply c).extras

def checkOpenInit (a : App) : Except ChannelError Unit :=
  match a with
  | .dummy _ => .ok ()
  | .accountHost _ => AccountHost.checkOpenInit
  | .scripted s => (s.reply .checkOpenInit).permit

/-- The version under which a channel is proposed to the other chain. -/
def openInit (a : App) (r : OpenRequest) : Except ChannelError (Extras × Version) :=
  match a with
  | .dummy _ => .ok ({}, DummyApp.negotiate r.version)
  | .accountHost _ => do
    AccountHost.checkOpenInit
    return ({}, r.version)
  | .scripted s => do
    let reply := s.reply .openInit
    reply.permit
    return (reply.extras, reply.version.getD r.version)

def checkOpenTry (a : App) (r : OpenRequest) : Except ChannelError Unit :=
  match a with
  | .dummy _ => .ok ()
  | .accountHost _ => discard (AccountHost.checkOpenTry r)
  | .scripted s => (s.reply .checkOpenTry).permit

/-- The version with which a channel proposed by the other chain is answered. -/
def openTry (a : App) (r : OpenRequest) : Except ChannelError (App × Extras × Version) :=
  match a with
  | .dummy _ => .ok (a, {}, r.version)
  | .accountHost host => do
    let (host, extras) ← host.openTry r
    return (.accountHost host, extras, r.version)
  | .scripted s => do
    let reply := s.reply .openTry
    reply.permit
    return (a, reply.extras, reply.version.getD r.version)

/-- The channel that the application counts as the one for a connection and a port of the other chain, if
it keeps to one. -/
def activeChannel (a : App) (connection : ConnectionId) (remotePort : PortId) : Option ChannelId :=
  match a with
  | .dummy _ => none
  | .accountHost host => host.bound.get? (connection, remotePort)
  | .scripted s => (s.reply .activeChannel).channel

/-- Whether a new channel may take the place of a closed one. -/
def checkReopen (a : App) (closed : ChannelEnd) (version : Version) : Except ChannelError Unit :=
  match a with
  | .dummy _ => .ok ()
  | .accountHost _ => AccountHost.checkReopen closed version
  | .scripted s => (s.reply .reopen).permit

/-- The application takes a packet in; it cannot refuse, only answer with a failure. -/
def receive (a : App) (p : Packet) : Extras × Acknowledgement :=
  match a with
  | .dummy d => d.receive p
  | .accountHost _ => ({}, successAck)
  | .scripted s => ((s.reply .receive).extras, (s.reply .receive).acknowledgement)

/-- Whether the application lets one of its packets be acknowledged or timed out. -/
def permitsSettling (a : App) (c : Callback) : Except PacketError Unit :=
  match a with
  | .dummy _ | .accountHost _ => .ok ()
  | .scripted s => (s.reply c).permitSettling

/-- One of the application's packets is acknowledged or timed out. -/
def settles (a : App) (c : Callback) : Except PacketError Extras :=
  match a with
  | .dummy _ | .accountHost _ => .ok {}
  | .scripted s => do
    (s.reply c).permitSettling
    return (s.reply c).extras

/-- The version to propose for an upgrade. -/
def upgradeProposal (a : App) (c : Callback) (f : UpgradeFields) :
    Except ChannelError (Extras × Version) :=
  match a with
  | .dummy d => .ok ({}, d.proposal f.version)
  | .accountHost _ => do
    AccountHost.checkUpgrade f.order f.version
    return ({}, f.version)
  | .scripted s => do
    let reply := s.reply c
    reply.permit
    return (reply.extras, reply.version.getD f.version)

/-- The version with which an upgrade of the other end is answered; an objection ends the attempt. -/
def upgradeTry (a : App) (f : UpgradeFields) : Except ChannelError (Extras × Version) :=
  match a with
  | .dummy d => do
    d.checkUpgrade
    return ({}, f.version)
  | .accountHost _ => do
    AccountHost.checkUpgrade f.order f.version
    return ({}, f.version)
  | .scripted s => do
    let reply := s.reply .upgradeTry
    reply.permit
    return (reply.extras, reply.version.getD f.version)

/-- The other end has settled on a version; an objection ends the attempt. -/
def upgradeAck (a : App) : Except ChannelError Extras :=
  match a with
  | .dummy d => do
    d.checkUpgrade
    return {}
  | .accountHost _ => .ok {}
  | .scripted s => do
    let reply := s.reply .upgradeAck
    reply.permit
    return reply.extras

/-- Upgraded fields are in force. -/
def upgradeOpen (a : App) (id : EndId) (version : Version) : Extras :=
  match a with
  | .dummy _ => DummyApp.upgradeOpen id version
  | .accountHost _ => {}
  | .scripted s => (s.reply .upgradeOpen).extras

/-- An attempt was given up and the channel is back on its fields. -/
def upgradeRestore (a : App) : Extras :=
  match a with
  | .dummy _ | .accountHost _ => {}
  | .scripted s => (s.reply .upgradeRestore).extras

end App

end ChannelLayer
