import ChannelLayer.Proofs.Checks

/-!
# What a message claims about the other chain

A message rests on claims about the other chain's store: this value, or none, lies at this path at this
height. `Message.evidence` lists them with the proof that goes with each, and `Evidence.Verified` is the
test that every handler puts them to (`verify_eq_ok`, `verifyAbsence_eq_ok`).
-/

set_option autoImplicit false

namespace ChannelLayer

/-- The hash that keeps its input as it is, so that no two inputs share one. Runs are evaluated with it. -/
abbrev Digest.plain : Digest := ⟨id⟩

/-- A claim about the other chain: at `height` it kept `value`, or nothing, at `path`. -/
structure Evidence where
  proof : Bytes
  height : Height
  storePrefix : Bytes
  path : Path
  value : Option Bytes
  deriving DecidableEq

namespace Evidence

variable [Digest]

/-- The proof that bears the claim out. -/
def expected (e : Evidence) : Bytes :=
  match e.value with
  | some value => Proof.membership e.height e.storePrefix e.path value
  | none => Proof.absence e.height e.storePrefix e.path

def Verified (e : Evidence) : Prop := e.proof = e.expected

instance (e : Evidence) : Decidable e.Verified := inferInstanceAs (Decidable (_ = _))

end Evidence

namespace ConnectionEnd

variable (c : ConnectionEnd) (proof : Bytes) (height : Height)

/-- A claim over this connection. -/
def claim (path : Path) (value : Option Bytes) : Evidence :=
  ⟨proof, height, c.remote.storePrefix, path, value⟩

def claimEnd (id : EndId) (expected : ChannelEnd) : Evidence :=
  c.claim proof height (.channel id) (some expected.encode)

def claimUpgrade (id : EndId) (expected : Upgrade) : Evidence :=
  c.claim proof height (.upgrade id) (some expected.encode)

section
variable [Digest] {c proof height} {clients : Clients} {u : Unit}

@[simp] theorem verify_eq_ok {path : Path} {value : Bytes} :
    c.verify clients proof height path value = .ok u ↔
      clients.checkVerified c.client height = .ok () ∧
        (c.claim proof height path (some value)).Verified := by
  simp [verify, Clients.verifyMembership, claim, Evidence.Verified, Evidence.expected]

@[simp] theorem verifyAbsence_eq_ok {path : Path} :
    c.verifyAbsence clients proof height path = .ok u ↔
      clients.checkVerified c.client height = .ok () ∧
        (c.claim proof height path none).Verified := by
  simp [verifyAbsence, Clients.verifyAbsence, claim, Evidence.Verified, Evidence.expected]

@[simp] theorem verifyEnd_eq_ok {id : EndId} {expected : ChannelEnd} :
    c.verifyEnd clients proof height id expected = .ok u ↔
      clients.checkVerified c.client height = .ok () ∧
        (c.claimEnd proof height id expected).Verified := by
  simp [verifyEnd, claimEnd]

@[simp] theorem verifyUpgrade_eq_ok {id : EndId} {expected : Upgrade} :
    c.verifyUpgrade clients proof height id expected = .ok u ↔
      clients.checkVerified c.client height = .ok () ∧
        (c.claimUpgrade proof height id expected).Verified := by
  simp [verifyUpgrade, claimUpgrade]

end

end ConnectionEnd

/-- The connection that an end with these hops runs over. -/
def Store.over? (s : Store) (hops : List ConnectionId) : Option ConnectionEnd :=
  hops.head?.bind s.connections.get?

/-- The end `id` with the connection it runs over. -/
def Store.joined? (s : Store) (id : EndId) : Option (ChannelEnd × ConnectionEnd) := do
  let c ← (s.record id).channel
  return (c, ← s.over? c.hops)

/-- The mirror of `c` in `state` on the other chain. -/
def ChannelEnd.mirror? (c : ChannelEnd) (id : EndId) (conn : ConnectionEnd) (state : ChannelState)
    (sequence : UInt64) : Option ChannelEnd := do
  let hop ← conn.remote.connection
  return ⟨state, c.order, .ofEnd id, [hop], c.version, sequence⟩

/-- The end of the other chain that `c` is joined to. -/
def ChannelEnd.remote? (c : ChannelEnd) : Option EndId := c.remote.channel.map fun ch => ⟨c.remote.port, ch⟩

@[simp] theorem ChannelEnd.remote?_eq_some {c : ChannelEnd} {id : EndId} :
    c.remote? = some id ↔ c.remote = .ofEnd id := by
  obtain ⟨-, -, ⟨port, channel⟩, -, -, -⟩ := c
  obtain ⟨port', channel'⟩ := id
  cases channel <;> simp [remote?, Counterparty.ofEnd]

/-- That the packet was not received, as the ordering has it proved. -/
def Packet.unreceivedEvidence (p : Packet) (conn : ConnectionEnd) (order : ChannelOrder)
    (nextReceive : Sequence) (proof : Bytes) (height : Height) : List Evidence :=
  match order with
  | .ordered => [conn.claim proof height (.nextReceive p.destination) (some nextReceive.toBytes)]
  | .unordered => [conn.claim proof height (.receipt p.destination p.sequence) none]
  | .unspecified => []

namespace Message

variable [Digest]

/-- The claims that the message rests on where it is delivered to a chain with store `s`, if what they are
about can be told from the store. -/
def evidence? (s : Store) : Message → Option (List Evidence)
  | .openInit _ | .closeInit _ | .upgradeInit _ => some []
  | .openTry m => do
    let conn ← s.over? m.hops
    let hop ← conn.remote.connection
    return [conn.claimEnd m.proof m.proofHeight m.counterparty
      ⟨.init, m.order, ⟨m.port, none⟩, [hop], m.counterpartyVersion, 0⟩]
  | .openAck m => do
    let (c, conn) ← s.joined? m.id
    let expected ← { c with version := m.counterpartyVersion }.mirror? m.id conn .tryOpen 0
    return [conn.claimEnd m.proof m.proofHeight ⟨c.remote.port, m.counterpartyChannel⟩ expected]
  | .openConfirm m => do
    let (c, conn) ← s.joined? m.id
    return [conn.claimEnd m.proof m.proofHeight (← c.remote?) (← c.mirror? m.id conn .opened 0)]
  | .closeConfirm m => do
    let (c, conn) ← s.joined? m.id
    return [conn.claimEnd m.proof m.proofHeight (← c.remote?)
      (← c.mirror? m.id conn .closed m.counterpartyUpgradeSequence)]
  | .receive m => do
    let (_, conn) ← s.joined? m.packet.destination
    return [conn.claim m.proof m.proofHeight (.commitment m.packet.source m.packet.sequence)
      (some m.packet.commitment)]
  | .acknowledge m => do
    let (_, conn) ← s.joined? m.packet.source
    return [conn.claim m.proof m.proofHeight (.ack m.packet.destination m.packet.sequence)
      (some m.ack.commitment)]
  | .timeout m => do
    let (c, conn) ← s.joined? m.packet.source
    return m.packet.unreceivedEvidence conn c.order m.nextReceive m.proofUnreceived m.proofHeight
  | .timeoutOnClose m => do
    let (c, conn) ← s.joined? m.packet.source
    let expected ← c.mirror? m.packet.source conn .closed m.counterpartyUpgradeSequence
    return conn.claimEnd m.proofClosed m.proofHeight (← c.remote?) expected
      :: m.packet.unreceivedEvidence conn c.order m.nextReceive m.proofUnreceived m.proofHeight
  | .upgradeTry m => do
    let (c, conn) ← s.joined? m.id
    let remote ← c.remote?
    let expected ← c.mirror? m.id conn .initUpgrade m.counterpartySequence
    return [conn.claimEnd m.proofChannel m.proofHeight remote expected,
      conn.claimUpgrade m.proofUpgrade m.proofHeight remote
        ⟨m.counterpartyFields, m.counterpartyTimeout, .zero⟩]
  | .upgradeAck m => do
    let (c, conn) ← s.joined? m.id
    let remote ← c.remote?
    let expected ← c.mirror? m.id conn .tryUpgrade c.upgradeSequence
    return [conn.claimEnd m.proofChannel m.proofHeight remote expected,
      conn.claimUpgrade m.proofUpgrade m.proofHeight remote m.counterpartyUpgrade]
  | .upgradeConfirm m => do
    let (c, conn) ← s.joined? m.id
    let remote ← c.remote?
    let expected ← c.mirror? m.id conn m.counterpartyState c.upgradeSequence
    return [conn.claimEnd m.proofChannel m.proofHeight remote expected,
      conn.claimUpgrade m.proofUpgrade m.proofHeight remote m.counterpartyUpgrade]
  | .upgradeOpen m => do
    let (c, conn) ← s.joined? m.id
    return [conn.claimEnd m.proof m.proofHeight (← c.remote?) m.counterpartyChannel]
  | .upgradeCancel m => do
    let (c, conn) ← s.joined? m.id
    return [conn.claim m.proof m.proofHeight (.upgradeError (← c.remote?)) (some m.receipt.encode)]
  | .upgradeExpire m => do
    let (c, conn) ← s.joined? m.id
    return [conn.claimEnd m.proof m.proofHeight (← c.remote?) m.counterpartyChannel]

def evidence (m : Message) (s : Store) : List Evidence := (m.evidence? s).getD []

omit [Digest] in
/-- The deadlines of upgrades that the message carries. -/
def deadlines : Message → List UpgradeTimeout
  | .upgradeInit m => [m.timeout]
  | .upgradeTry m => [m.counterpartyTimeout]
  | .upgradeAck m => [m.counterpartyUpgrade.timeout]
  | .upgradeConfirm m => [m.counterpartyUpgrade.timeout]
  | _ => []

end Message

end ChannelLayer
