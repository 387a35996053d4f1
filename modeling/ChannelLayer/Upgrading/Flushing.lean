import ChannelLayer.Upgrading.Proposal

/-!
# Settling an upgrade

The proposing end takes over the answer and stops sending (ack); the answering end learns of that and
stops sending too (confirm). From then on both know the fields that come into force once both have
flushed.
-/

set_option autoImplicit false

namespace ChannelLayer.Message

def UpgradeAck.validate [Digest] (m : UpgradeAck) (host : Host) (s : Store) :
    Except HandlerError Unit := do
  m.signer.check
  let c ← s.channel m.id
  c.checkState .initUpgrade
  discard (s.upgrade m.id)
  m.counterpartyUpgrade.fields.check
  let conn ← s.openConnection (← firstHop c.hops)
  let remote ← c.remoteEnd
  let expected ← c.expectedRemote m.id conn .tryUpgrade c.upgradeSequence
  conn.checkProofHeight host.clients m.proofHeight
  conn.verifyEnd host.clients m.proofChannel m.proofHeight remote expected
  conn.checkProofHeight host.clients m.proofHeight
  conn.verifyUpgrade host.clients m.proofUpgrade m.proofHeight remote m.counterpartyUpgrade

/-- Why the answer `m` to the proposal `u` is not acceptable, if it is not. -/
def UpgradeAck.incompatibility? (m : UpgradeAck) (host : Host) (s : Store) (u : Upgrade) :
    Except HandlerError (Option UpgradeError) := do
  if u.fields.order ≠ m.counterpartyUpgrade.fields.order then
    return some (.incompatible
      (.answeredOrder m.counterpartyUpgrade.fields.order u.fields.order))
  match ← s.connectionMismatch? u.fields m.counterpartyUpgrade.fields with
  | some e => return some e
  | none => return host.upgradeElapsed? m.counterpartyUpgrade.timeout

/-- The proposal with the version that the other end settled on. -/
def UpgradeAck.settled (m : UpgradeAck) (u : Upgrade) (nextSend : Sequence) : Upgrade :=
  { u with fields := { u.fields with version := m.counterpartyUpgrade.fields.version }, nextSend }

/-- Takes over an acceptable answer and stops sending. -/
def UpgradeAck.accept (m : UpgradeAck) (c : ChannelEnd) (u : Upgrade) (extras : Extras) :
    Exec Unit := do
  let u := m.settled u (← (← Exec.store).nextSend m.id)
  Exec.update (·.setUpgrade m.id u)
  Exec.update (·.setCounterpartyUpgrade m.id m.counterpartyUpgrade)
  let c := { c with state := (← Exec.store).flushState m.id }
  Exec.setChannel m.id c
  Exec.log "success: channel upgrade ack"
  Exec.report (.upgrade .ack (.ofEnd m.id c) u.fields)
  Exec.addExtras extras

def UpgradeAck.execute (m : UpgradeAck) (host : Host) : Exec Unit := do
  let c ← (← Exec.store).channel m.id
  let u ← (← Exec.store).upgrade m.id
  match ← m.incompatibility? host (← Exec.store) u with
  | some e => Exec.abortUpgrade m.id c e
  | none =>
    match (← Exec.app).upgradeAck with
    | .error e => Exec.abortUpgrade m.id c (.appModule e.message)
    | .ok extras => m.accept c u extras

def UpgradeConfirm.validate [Digest] (m : UpgradeConfirm) (host : Host) (s : Store) :
    Except HandlerError Unit := do
  m.signer.check
  let c ← s.channel m.id
  c.checkState .tryUpgrade
  if m.counterpartyState ∉ [.flushing, .flushComplete] then
    throw (.channel (.state .counterpartyFlushing m.counterpartyState))
  discard (s.upgrade m.id)
  let conn ← s.openConnection (← firstHop c.hops)
  let remote ← c.remoteEnd
  let expected ← c.expectedRemote m.id conn m.counterpartyState c.upgradeSequence
  conn.checkProofHeight host.clients m.proofHeight
  conn.verifyEnd host.clients m.proofChannel m.proofHeight remote expected
  conn.checkProofHeight host.clients m.proofHeight
  conn.verifyUpgrade host.clients m.proofUpgrade m.proofHeight remote m.counterpartyUpgrade

/-- Why what the other end settled on does not go with `u`, if it does not. -/
def UpgradeConfirm.incompatibility? (m : UpgradeConfirm) (host : Host) (u : Upgrade) :
    Option UpgradeError :=
  let theirs := m.counterpartyUpgrade.fields
  if theirs.order ≠ u.fields.order ∨ theirs.version ≠ u.fields.version then
    some (.incompatible (.settled theirs u.fields))
  else host.upgradeElapsed? m.counterpartyUpgrade.timeout

/-- Stops sending, and commits at once where no packet is in flight either way. -/
def UpgradeConfirm.accept (m : UpgradeConfirm) (c : ChannelEnd) (u : Upgrade) : Exec Unit := do
  Exec.update (·.setCounterpartyUpgrade m.id m.counterpartyUpgrade)
  let c := { c with state := (← Exec.store).flushState m.id }
  Exec.setChannel m.id c
  Exec.log "success: channel upgrade confirm"
  Exec.report (.upgrade .confirm (.ofEnd m.id c) u.fields)
  if c.state = .flushComplete ∧ m.counterpartyState = .flushComplete then
    Exec.commitUpgrade m.id c

def UpgradeConfirm.execute (m : UpgradeConfirm) (host : Host) : Exec Unit := do
  let c ← (← Exec.store).channel m.id
  let u ← (← Exec.store).upgrade m.id
  match m.incompatibility? host u with
  | some e => Exec.abortUpgrade m.id c e
  | none => m.accept c u

end ChannelLayer.Message
