import ChannelLayer.Relay

/-!
# Relaying upgrades

The steps of an upgrade that was started on `a`. Steps on `b` name the end of `b`.
-/

set_option autoImplicit false

namespace ChannelLayer.Relay

variable [Digest]

def upgradeInit (id : EndId) (fields : UpgradeFields) (timeout : UpgradeTimeout) : RelayStep Unit :=
  onA (Chain.deliver (.upgradeInit ⟨id, fields, timeout, Sample.signer⟩))

/-- The end of `b` that the end `id` of `a` is joined to. -/
def remoteOfA (id : EndId) : RelayStep EndId := do
  counterpartyOf (← query ((← get).a.store.channel id)) id

/-- The end of `a` that the end `id` of `b` is joined to. -/
def remoteOfB (id : EndId) : RelayStep EndId := do
  counterpartyOf (← query ((← get).b.store.channel id)) id

/-- The end `id` of `b` answers the proposal of `a`. -/
def upgradeTry (id : EndId) : RelayStep Unit := do
  let remote ← remoteOfB id
  let a := (← get).a
  let c ← query (a.store.channel remote)
  let u ← upgradeOn a remote
  deliverB (.upgradeTry
    { id, hops := [Sample.connectionId], counterpartyFields := u.fields
      counterpartyTimeout := u.timeout, counterpartySequence := c.upgradeSequence
      proofChannel := a.prove (.channel remote), proofUpgrade := a.prove (.upgrade remote)
      proofHeight := a.host.height, signer := Sample.signer })

/-- The end `id` of `a` takes over the answer. -/
def upgradeAck (id : EndId) : RelayStep Unit := do
  let remote ← remoteOfA id
  let b := (← get).b
  let u ← upgradeOn b remote
  deliverA (.upgradeAck
    { id, counterpartyUpgrade := u, proofChannel := b.prove (.channel remote)
      proofUpgrade := b.prove (.upgrade remote), proofHeight := b.host.height
      signer := Sample.signer })

/-- The end `id` of `b` learns that `a` is flushing. -/
def upgradeConfirm (id : EndId) : RelayStep Unit := do
  let remote ← remoteOfB id
  let a := (← get).a
  let c ← query (a.store.channel remote)
  let u ← upgradeOn a remote
  deliverB (.upgradeConfirm
    { id, counterpartyState := c.state, counterpartyUpgrade := u
      proofChannel := a.prove (.channel remote), proofUpgrade := a.prove (.upgrade remote)
      proofHeight := a.host.height, signer := Sample.signer })

/-- The end `id` of `a` commits. -/
def upgradeOpen (id : EndId) : RelayStep Unit := do
  let remote ← remoteOfA id
  let b := (← get).b
  let c ← query (b.store.channel remote)
  deliverA (.upgradeOpen
    { id, counterpartyChannel := c, proof := b.prove (.channel remote)
      proofHeight := b.host.height, signer := Sample.signer })

/-- The end `id` of `a` gives up on the error receipt of `b`. -/
def upgradeCancel (id : EndId) : RelayStep Unit := do
  let remote ← remoteOfA id
  let b := (← get).b
  let receipt ← receiptOn b remote
  deliverA (.upgradeCancel
    { id, receipt, proof := b.prove (.upgradeError remote), proofHeight := b.host.height
      signer := Sample.signer })

/-- The end `id` of `a` gives up because the deadline has passed on `b`. -/
def upgradeExpire (id : EndId) : RelayStep Unit := do
  let remote ← remoteOfA id
  let b := (← get).b
  let c ← query (b.store.channel remote)
  deliverA (.upgradeExpire
    { id, counterpartyChannel := c, proof := b.prove (.channel remote)
      proofHeight := b.host.height, signer := Sample.signer })

/-- All steps of an upgrade with no packets in flight. -/
def upgradeChannel (id : EndId) (fields : UpgradeFields) (timeout : UpgradeTimeout) :
    RelayStep Unit := do
  let remote ← remoteOfA id
  upgradeInit id fields timeout
  upgradeTry remote
  upgradeAck id
  upgradeConfirm remote
  upgradeOpen id

end ChannelLayer.Relay
