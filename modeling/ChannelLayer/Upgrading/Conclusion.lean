import ChannelLayer.Upgrading.Attempt
import ChannelLayer.Message
import ChannelLayer.Verification

/-!
# Concluding an upgrade

A flushed end commits once it sees that the other end has flushed or committed (open). An end gives its
attempt up on an error receipt of the other end (cancel), or on a proof that the deadline passed while the
other end had neither flushed nor committed (expire).
-/

set_option autoImplicit false

namespace ChannelLayer.Message

/-- The other end has flushed or committed the attempt that `c` is flushed in. -/
def UpgradeOpen.checkCounterparty (m : UpgradeOpen) (c : ChannelEnd) (u counterparty : Upgrade) :
    Except HandlerError Unit :=
  let theirs := m.counterpartyChannel
  match theirs.state with
  | .flushComplete =>
    if theirs.upgradeSequence ≠ c.upgradeSequence then
      .error (.upgrade (.sequenceMismatch c.upgradeSequence theirs.upgradeSequence))
    else .ok ()
  | .opened | .initUpgrade =>
    if theirs.upgradeSequence < c.upgradeSequence then
      .error (.upgrade (.sequenceMismatch c.upgradeSequence theirs.upgradeSequence))
    else if theirs.order ≠ u.fields.order ∨ theirs.version ≠ u.fields.version
        ∨ theirs.hops ≠ counterparty.fields.hops then
      .error (.upgrade (.incompatible (.notInForce theirs u.fields)))
    else .ok ()
  | state => .error (.channel (.state .counterpartyFlushed state))

def UpgradeOpen.validate [Digest] (m : UpgradeOpen) (host : Host) (s : Store) :
    Except HandlerError Unit := do
  m.signer.check
  let c ← s.channel m.id
  c.checkState .flushComplete
  let u ← s.upgrade m.id
  let counterparty ← s.counterpartyUpgrade m.id
  let conn ← s.openConnection (← firstHop c.hops)
  m.counterpartyChannel.checkRemote (.ofEnd m.id)
  m.checkCounterparty c u counterparty
  let remote ← c.remoteEnd
  conn.checkProofHeight host.clients m.proofHeight
  conn.verifyEnd host.clients m.proof m.proofHeight remote m.counterpartyChannel

def UpgradeOpen.execute (m : UpgradeOpen) : Exec Unit := do
  let c ← (← Exec.store).channel m.id
  Exec.commitUpgrade m.id c

/-- The receipt bears on the attempt that `c` is in: a flushed end can only be cancelled by the receipt of
this very attempt, any other also by a later one. -/
def UpgradeCancel.accepts (m : UpgradeCancel) (c : ChannelEnd) : Bool :=
  if c.state = .flushComplete then m.receipt.sequence = c.upgradeSequence
  else c.upgradeSequence ≤ m.receipt.sequence

def UpgradeCancel.validate [Digest] (m : UpgradeCancel) (host : Host) (s : Store) :
    Except HandlerError Unit := do
  m.signer.check
  let c ← s.channel m.id
  discard (s.upgrade m.id)
  if !m.accepts c then throw (.upgrade (.receiptSequence m.receipt.sequence c.upgradeSequence))
  let conn ← s.openConnection (← firstHop c.hops)
  let remote ← c.remoteEnd
  conn.checkProofHeight host.clients m.proofHeight
  ((conn.verify host.clients m.proof m.proofHeight (.upgradeError remote) m.receipt.encode).mapError
    UpgradeError.verification : Except UpgradeError Unit)

/-- The end at the sequence that the other one has reached, so that the next attempt is above both. -/
def UpgradeCancel.caughtUp (m : UpgradeCancel) (c : ChannelEnd) : ChannelEnd :=
  if c.upgradeSequence < m.receipt.sequence then { c with upgradeSequence := m.receipt.sequence } else c

def UpgradeCancel.execute (m : UpgradeCancel) : Exec Unit := do
  let c ← (← Exec.store).channel m.id
  Exec.abortUpgrade m.id (m.caughtUp c) (.cancelled m.receipt.sequence)
  let c ← (← Exec.store).channel m.id
  Exec.log "success: channel upgrade cancel"
  Exec.report (.upgradeCancelled (.ofEnd m.id c))

/-- The other end is done with the attempt on its part. -/
def UpgradeExpire.counterpartyDone (m : UpgradeExpire) (c : ChannelEnd) (u : Upgrade) : Bool :=
  let theirs := m.counterpartyChannel
  (theirs.state = .flushComplete && theirs.upgradeSequence = c.upgradeSequence)
    || (theirs.state = .opened && c.upgradeSequence ≤ theirs.upgradeSequence
      && theirs.order = u.fields.order && theirs.version = u.fields.version)

def UpgradeExpire.validate [Digest] (m : UpgradeExpire) (host : Host) (s : Store) :
    Except HandlerError Unit := do
  m.signer.check
  let c ← s.channel m.id
  c.checkStateIn [.initUpgrade, .tryUpgrade, .flushing, .flushComplete]
  let u ← s.upgrade m.id
  let conn ← s.openConnection (← firstHop c.hops)
  m.counterpartyChannel.checkRemote (.ofEnd m.id)
  if m.counterpartyDone c u then
    throw (.upgrade (.committed m.counterpartyChannel.state m.counterpartyChannel.upgradeSequence))
  conn.checkProofHeight host.clients m.proofHeight
  let time ← host.clients.consensusTime conn.client m.proofHeight
  if !u.timeout.hasElapsed m.proofHeight time then
    throw (.upgrade (.timeoutNotReached u.timeout m.proofHeight time))
  let remote ← c.remoteEnd
  conn.checkProofHeight host.clients m.proofHeight
  conn.verifyEnd host.clients m.proof m.proofHeight remote m.counterpartyChannel

def UpgradeExpire.execute (m : UpgradeExpire) (host : Host) : Exec Unit := do
  let c ← (← Exec.store).channel m.id
  let u ← (← Exec.store).upgrade m.id
  let conn ← (← Exec.store).connection (← firstHop c.hops)
  let time ← host.clients.consensusTime conn.client m.proofHeight
  Exec.abortUpgrade m.id c (.timeoutElapsed u.timeout m.proofHeight time)
  let c ← (← Exec.store).channel m.id
  Exec.log "success: channel upgrade timeout"
  Exec.report (.upgradeTimeout (.ofEnd m.id c))

end ChannelLayer.Message
