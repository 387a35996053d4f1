import ChannelLayer.Exec
import ChannelLayer.Host
import ChannelLayer.Message
import ChannelLayer.Verification

/-!
# Opening a channel

Four messages open a channel: the first chain proposes it (init), the second answers (try), the first
accepts the answer (ack), and the second learns of that (confirm). Each message after the first proves
the end that the other chain has reached. Both chains name their end after their own counter and hand its
owner a capability, and an end counts packets from the moment it is open.
-/

set_option autoImplicit false

namespace ChannelLayer

/-- The record of a new end, and its owner. -/
def Store.addChannel (s : Store) (id : EndId) (c : ChannelEnd) : Store :=
  { s.setChannel id c with channelCounter := s.channelCounter + 1 }

namespace Exec

def addChannel (id : EndId) (c : ChannelEnd) : Exec Unit := do
  update (·.addChannel id c)
  let (_, s) ← (← store).claim id
  update fun _ => s

end Exec

namespace Message

def OpenInit.request (m : OpenInit) (s : Store) : OpenRequest :=
  ⟨⟨m.port, s.nextChannelId⟩, ⟨m.counterpartyPort, none⟩, m.order, m.hops, m.version⟩

def OpenInit.validate (m : OpenInit) (s : Store) (app : App) : Except HandlerError Unit := do
  m.signer.check
  checkHops m.hops
  checkOrder m.order
  discard (s.openConnection (← firstHop m.hops))
  let id : EndId := ⟨m.port, s.nextChannelId⟩
  if (s.record id).channel.isSome then throw (.channel (.alreadyExists id))
  s.checkUnclaimed id
  app.checkOpenInit

def OpenInit.execute (m : OpenInit) : Exec Unit := do
  let request := m.request (← Exec.store)
  let (extras, version) ← (← Exec.app).openInit request
  let hop ← firstHop m.hops
  let c ← ChannelEnd.checked ⟨.init, m.order, request.remote, m.hops, version, 0⟩
  Exec.addChannel request.id c
  Exec.log ("success: channel open init with channel identifier: " ++ request.id.channel.text)
  Exec.report (.openInit request.id m.counterpartyPort hop version)
  Exec.addExtras extras

def OpenTry.request (m : OpenTry) (s : Store) : OpenRequest :=
  ⟨⟨m.port, s.nextChannelId⟩, .ofEnd m.counterparty, m.order, m.hops, m.counterpartyVersion⟩

/-- An application that keeps to one channel per connection and port takes a new one only once the old one
is closed and has no owner. -/
def OpenTry.checkReopen (m : OpenTry) (s : Store) (app : App) : Except HandlerError Unit := do
  let hop ← firstHop m.hops
  let some active := app.activeChannel hop m.counterparty.port | return
  let id : EndId := ⟨m.port, active⟩
  let c ← s.channel id
  if c.state ≠ .closed then throw (.channel (.activeChannel id hop))
  s.checkUnclaimed id
  app.checkReopen c m.counterpartyVersion

def OpenTry.validate [Digest] (m : OpenTry) (host : Host) (s : Store) (app : App) :
    Except HandlerError Unit := do
  m.signer.check
  checkHops m.hops
  checkOrder m.order
  let conn ← s.openConnection (← firstHop m.hops)
  s.checkUnclaimed ⟨m.port, s.nextChannelId⟩
  m.checkReopen s app
  app.checkOpenTry (m.request s)
  conn.checkProofHeight host.clients m.proofHeight
  let remoteHop ← conn.remoteConnection
  let expected ← ChannelEnd.checked
    ⟨.init, m.order, ⟨m.port, none⟩, [remoteHop], m.counterpartyVersion, 0⟩
  conn.verifyEnd host.clients m.proof m.proofHeight m.counterparty expected

def OpenTry.execute (m : OpenTry) : Exec Unit := do
  let request := m.request (← Exec.store)
  let (app, extras, version) ← (← Exec.app).openTry request
  Exec.setApp app
  let hop ← firstHop m.hops
  let c ← ChannelEnd.checked ⟨.tryOpen, m.order, request.remote, m.hops, version, 0⟩
  Exec.addChannel request.id c
  Exec.log ("success: channel open try with channel identifier: " ++ request.id.channel.text)
  Exec.report (.openTry ⟨request.id, request.remote, hop⟩ version)
  Exec.addExtras extras

def OpenAck.validate [Digest] (m : OpenAck) (host : Host) (s : Store) (app : App) :
    Except HandlerError Unit := do
  m.signer.check
  let c ← s.channel m.id
  c.checkState .init
  s.checkClaimed m.id
  checkHops c.hops
  let conn ← s.openConnection (← firstHop c.hops)
  conn.checkProofHeight host.clients m.proofHeight
  let remoteHop ← conn.remoteConnection
  let expected ← ChannelEnd.checked
    ⟨.tryOpen, c.order, .ofEnd m.id, [remoteHop], m.counterpartyVersion, 0⟩
  conn.verifyEnd host.clients m.proof m.proofHeight ⟨c.remote.port, m.counterpartyChannel⟩ expected
  app.permits .checkOpenAck

/-- The end once the other chain's answer is accepted. -/
def OpenAck.opened (m : OpenAck) (c : ChannelEnd) : ChannelEnd :=
  { c with state := .opened, version := m.counterpartyVersion
           remote := ⟨c.remote.port, some m.counterpartyChannel⟩ }

def OpenAck.execute (m : OpenAck) : Exec Unit := do
  let extras ← (← Exec.app).notes .openAck
  let c ← (← Exec.store).channel m.id
  Exec.setChannel m.id (m.opened c)
  Exec.update (·.startCounting m.id)
  Exec.log "success: channel open ack"
  Exec.report (.openAck ⟨m.id, (m.opened c).remote, ← firstHop c.hops⟩)
  Exec.addExtras extras

def OpenConfirm.validate [Digest] (m : OpenConfirm) (host : Host) (s : Store) (app : App) :
    Except HandlerError Unit := do
  m.signer.check
  let c ← s.channel m.id
  c.checkState .tryOpen
  s.checkClaimed m.id
  checkHops c.hops
  let conn ← s.openConnection (← firstHop c.hops)
  conn.checkProofHeight host.clients m.proofHeight
  let remote ← c.remoteEnd
  let remoteHop ← conn.remoteConnection
  let expected ← ChannelEnd.checked ⟨.opened, c.order, .ofEnd m.id, [remoteHop], c.version, 0⟩
  conn.verifyEnd host.clients m.proof m.proofHeight remote expected
  app.permits .checkOpenConfirm

def OpenConfirm.execute (m : OpenConfirm) : Exec Unit := do
  let extras ← (← Exec.app).notes .openConfirm
  let c ← (← Exec.store).channel m.id
  Exec.setChannel m.id { c with state := .opened }
  Exec.update (·.startCounting m.id)
  Exec.log "success: channel open confirm"
  let hop ← firstHop c.hops
  let remote ← c.remoteEnd
  Exec.report (.openConfirm ⟨m.id, .ofEnd remote, hop⟩)
  Exec.addExtras extras

end Message

end ChannelLayer
