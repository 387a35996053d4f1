import ChannelLayer.Exec
import ChannelLayer.Host
import ChannelLayer.Message
import ChannelLayer.Verification

/-!
# Closing a channel

Either chain may close an open channel; the other one closes its end on a proof of that. An end that is
in the middle of an upgrade cannot be closed this way.
-/

set_option autoImplicit false

namespace ChannelLayer

namespace Exec

/-- Closes an open end and reports it. -/
def closeEnd (id : EndId) (line : String) (event : EndInfo → Event) : Exec Unit := do
  let c ← (← store).channel id
  setChannel id { c with state := .closed }
  log line
  report (event ⟨id, c.remote, ← firstHop c.hops⟩)

end Exec

/-- The end is open, owned and on an open connection. -/
def Store.closable (s : Store) (id : EndId) : Except HandlerError (ChannelEnd × ConnectionEnd) := do
  let c ← s.channel id
  c.checkState .opened
  s.checkClaimed id
  checkHops c.hops
  return (c, ← s.openConnection (← firstHop c.hops))

namespace Message

def CloseInit.validate (m : CloseInit) (s : Store) (app : App) : Except HandlerError Unit := do
  m.signer.check
  discard (s.closable m.id)
  app.permits .checkCloseInit

def CloseInit.execute (m : CloseInit) : Exec Unit := do
  let extras ← (← Exec.app).notes .closeInit
  Exec.closeEnd m.id "success: channel close init" .closeInit
  Exec.addExtras extras

def CloseConfirm.validate [Digest] (m : CloseConfirm) (host : Host) (s : Store) (app : App) :
    Except HandlerError Unit := do
  m.signer.check
  let (c, conn) ← s.closable m.id
  conn.checkProofHeight host.clients m.proofHeight
  let remote ← c.remoteEnd
  let remoteHop ← conn.remoteConnection
  let expected ← ChannelEnd.checked
    ⟨.closed, c.order, .ofEnd m.id, [remoteHop], c.version, m.counterpartyUpgradeSequence⟩
  conn.verifyEnd host.clients m.proof m.proofHeight remote expected
  app.permits .checkCloseConfirm

def CloseConfirm.execute (m : CloseConfirm) : Exec Unit := do
  let extras ← (← Exec.app).notes .closeConfirm
  Exec.closeEnd m.id "success: channel close confirm" .closeConfirm
  Exec.addExtras extras

end Message

end ChannelLayer
