import ChannelLayer.Message
import ChannelLayer.Upgrading.Attempt
import ChannelLayer.Upgrading.Precedence
import ChannelLayer.Verification

/-!
# Proposing and answering an upgrade

One end proposes new fields (init) and the other answers (try), naming its own side of the connection to
move to. What the proposing end could not mend by trying again does not fail the answer but gives the
attempt up, so that the proposing end can cancel on the receipt.
-/

set_option autoImplicit false

namespace ChannelLayer

/-- The end that the other chain has to hold while it takes part in an attempt on `c`. -/
def ChannelEnd.expectedRemote (c : ChannelEnd) (id : EndId) (conn : ConnectionEnd)
    (state : ChannelState) (sequence : UInt64) : Except HandlerError ChannelEnd := do
  let hop ← conn.remoteConnection
  ChannelEnd.checked ⟨state, c.order, .ofEnd id, [hop], c.version, sequence⟩

namespace Store

/-- Proposed fields differ from those in force and name an open connection. -/
def checkProposal (s : Store) (f : UpgradeFields) (c : ChannelEnd) : Except HandlerError Unit := do
  if f = c.fields then throw (.upgrade .unchanged)
  f.check
  discard (s.openConnection (← firstHop f.hops))

/-- What keeps the connection proposed here and the one proposed there from being one. -/
def connectionMismatch? (s : Store) (f remote : UpgradeFields) :
    Except HandlerError (Option UpgradeError) := do
  let hop ← firstHop f.hops
  let conn ← s.connection hop
  let remoteHop ← firstHop remote.hops
  return if conn.remote.connection = some remoteHop then none
    else some (.incompatible (.connection hop remoteHop))

end Store

namespace Message

def UpgradeInit.proposal (m : UpgradeInit) (version : Version) : UpgradeFields :=
  { m.fields with version }

def UpgradeInit.validate (m : UpgradeInit) (s : Store) (app : App) : Except HandlerError Unit := do
  m.signer.check
  m.check
  let c ← s.channel m.id
  c.checkState .opened
  s.checkProposal m.fields c
  let (_, version) ← app.upgradeProposal .checkUpgradeInit m.fields
  s.checkProposal (m.proposal version) c

/-- The end once it has proposed an upgrade. -/
def UpgradeInit.proposed (c : ChannelEnd) : ChannelEnd :=
  { c with state := .initUpgrade, upgradeSequence := c.upgradeSequence + 1 }

def UpgradeInit.execute (m : UpgradeInit) : Exec Unit := do
  let c ← (← Exec.store).channel m.id
  let (extras, version) ← (← Exec.app).upgradeProposal .upgradeInit m.fields
  let fields := m.proposal version
  (← Exec.store).checkProposal fields c
  Exec.setChannel m.id (proposed c)
  Exec.update (·.setUpgrade m.id ⟨fields, m.timeout, .zero⟩)
  Exec.log "success: channel upgrade init"
  Exec.report (.upgrade .init (.ofEnd m.id (proposed c)) fields)
  Exec.addExtras extras

/-- The verdict between the proposal that is answered and an own one, if there is one. -/
def UpgradeTry.crossing? (m : UpgradeTry) (s : Store) (c : ChannelEnd) :
    Except HandlerError (Option Precedence) := do
  if c.state ≠ .initUpgrade then return none
  let u ← s.upgrade m.id
  let remote ← c.remoteEnd
  return some (upgradePrecedence ⟨c.upgradeSequence, u.fields, m.id⟩
    ⟨m.counterpartySequence, m.counterpartyFields, remote⟩)

def UpgradeTry.validate [Digest] (m : UpgradeTry) (host : Host) (s : Store) :
    Except HandlerError Unit := do
  m.signer.check
  m.check
  let c ← s.channel m.id
  c.checkStateIn [.opened, .initUpgrade]
  let conn ← s.openConnection (← firstHop c.hops)
  discard (s.openConnection (← firstHop m.hops))
  let remote ← c.remoteEnd
  if (← m.crossing? s c) = some .ours then
    throw (.upgrade (.sequenceLost c.upgradeSequence m.counterpartySequence))
  let expected ← c.expectedRemote m.id conn .initUpgrade m.counterpartySequence
  conn.checkProofHeight host.clients m.proofHeight
  conn.verifyEnd host.clients m.proofChannel m.proofHeight remote expected
  conn.checkProofHeight host.clients m.proofHeight
  conn.verifyUpgrade host.clients m.proofUpgrade m.proofHeight remote
    ⟨m.counterpartyFields, m.counterpartyTimeout, .zero⟩

/-- The proposed fields as seen from this end. -/
def UpgradeTry.fields (m : UpgradeTry) : UpgradeFields := { m.counterpartyFields with hops := m.hops }

/-- Why this end cannot go along with the proposal, if it cannot. -/
def UpgradeTry.incompatibility? (m : UpgradeTry) (host : Host) (s : Store) (crossing : Bool) :
    Except HandlerError (Option UpgradeError) := do
  if crossing then
    let u ← s.upgrade m.id
    if u.fields.order ≠ m.fields.order then
      return some (.incompatible (.crossingOrder m.fields.order u.fields.order))
  match ← s.connectionMismatch? m.fields m.counterpartyFields with
  | some e => return some e
  | none => return host.upgradeElapsed? m.counterpartyTimeout

/-- The end once it has answered. -/
def UpgradeTry.answered (c : ChannelEnd) : ChannelEnd := { c with state := .tryUpgrade }

/-- Answers a proposal that can be gone along with. -/
def UpgradeTry.accept (m : UpgradeTry) (c : ChannelEnd) (extras : Extras) (version : Version) :
    Exec Unit := do
  let fields := { m.fields with version }
  let nextSend ← (← Exec.store).nextSend m.id
  Exec.setChannel m.id (answered c)
  Exec.update (·.setUpgrade m.id ⟨fields, m.counterpartyTimeout, nextSend⟩)
  Exec.log "success: channel upgrade try"
  Exec.report (.upgrade .tried (.ofEnd m.id (answered c)) fields)
  Exec.addExtras extras

def UpgradeTry.execute (m : UpgradeTry) (host : Host) : Exec Unit := do
  let c ← (← Exec.store).channel m.id
  let crossing : Bool := c.state = .initUpgrade
  if !crossing && m.counterpartySequence ≤ c.upgradeSequence then
    Exec.writeReceipt m.id c (.outdated c.upgradeSequence m.counterpartySequence)
  else if (← m.crossing? (← Exec.store) c) = some .tie then
    Exec.abortUpgrade m.id c (.indistinguishable c.upgradeSequence)
  else
    let c := { c with upgradeSequence := m.counterpartySequence }
    match ← m.incompatibility? host (← Exec.store) crossing with
    | some e => Exec.abortUpgrade m.id c e
    | none =>
      match (← Exec.app).upgradeTry m.fields with
      | .error e => Exec.abortUpgrade m.id c (.appModule e.message)
      | .ok (extras, version) => m.accept c extras version

end Message

end ChannelLayer
