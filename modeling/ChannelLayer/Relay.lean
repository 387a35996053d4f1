import ChannelLayer.Chain
import ChannelLayer.Chain.Setup
import ChannelLayer.Sample

/-!
# Relaying between two chains

Two chains joined by one open connection, each following the other through a light client. A relayer
reads one chain, proves what it read, brings the client on the other chain up to date and delivers a
message there. Everything is said from side `a` to side `b`; `reverse` swaps the two.
-/

set_option autoImplicit false

namespace ChannelLayer

inductive RelayError where
  | transaction (e : HandlerError)
  | query (e : HandlerError)
  | noCapability (id : EndId)
  | missingEvent (expected : String)
  | missingUpgrade (id : EndId) (kind : String)
  | noCounterparty (id : EndId)
  deriving DecidableEq

namespace RelayError

def channelText (id : EndId) : String :=
  "channel `" ++ id.channel.text ++ "` on port `" ++ id.port.text ++ "`"

def message : RelayError → String
  | .transaction e => "transaction processing by modules failed error: `" ++ e.message ++ "`"
  | .query e => "querying the store of the source chain failed: `" ++ e.message ++ "`"
  | .noCapability id => "no capability held for " ++ channelText id
  | .missingEvent expected => "expected a `" ++ expected ++ "` event, none was emitted"
  | .missingUpgrade id kind => channelText id ++ " has no upgrade of the kind `" ++ kind ++ "`"
  | .noCounterparty id => channelText id ++ " has no counterparty channel yet"

/-- The messages of the errors behind this one, nearest first. -/
def causes : RelayError → List String
  | .transaction e | .query e => e.message :: e.causes
  | _ => []

end RelayError

structure Relay where
  a : Chain
  b : Chain
  deriving DecidableEq

abbrev RelayStep := EStateM RelayError Relay

namespace Chain

/-- The chain learns the latest block of `other`. -/
def follow (c other : Chain) : Chain :=
  { c with host.clients := c.host.clients.update Sample.client other.host.height other.host.time }

/-- The chain with a client of `other` and an open connection to it. -/
def connect (c other : Chain) : Chain :=
  { c.follow other with
    store := c.store.setConnection Sample.connectionId (Sample.connection .opened) }

end Chain

namespace Relay

/-- Joins two chains. -/
def join (a b : Chain) : Relay := ⟨a.connect b, b.connect a⟩

def reverse (r : Relay) : Relay := ⟨r.b, r.a⟩

def syncA (r : Relay) : Relay := { r with a := r.a.follow r.b }

def syncB (r : Relay) : Relay := { r with b := r.b.follow r.a }

/-- Runs a step of chain `a`. -/
def onA {α : Type} (step : ChainStep α) : RelayStep α := fun r =>
  match step r.a with
  | .ok x a => .ok x { r with a }
  | .error e a => .error (.transaction e) { r with a }

/-- Runs a step of chain `b`. -/
def onB {α : Type} (step : ChainStep α) : RelayStep α := fun r =>
  match step r.b with
  | .ok x b => .ok x { r with b }
  | .error e b => .error (.transaction e) { r with b }

/-- Reads something that may be missing. -/
def query {α : Type} (x : Except HandlerError α) : RelayStep α :=
  match x with
  | .ok a => pure a
  | .error e => throw (.query e)

/-- The upgrade that a chain keeps for one of its ends. -/
def upgradeOn (c : Chain) (id : EndId) : RelayStep Upgrade :=
  match (c.store.record id).upgrade with
  | some u => pure u
  | none => throw (.missingUpgrade id "upgrade")

/-- The error receipt that a chain keeps for one of its ends. -/
def receiptOn (c : Chain) (id : EndId) : RelayStep ErrorReceipt :=
  match (c.store.record id).errorReceipt with
  | some receipt => pure receipt
  | none => throw (.missingUpgrade id "error receipt")

/-- The end of the other chain that the end `id` is joined to. -/
def counterpartyOf (c : ChannelEnd) (id : EndId) : RelayStep EndId :=
  match c.remote.channel with
  | some channel => pure ⟨c.remote.port, channel⟩
  | none => throw (.noCounterparty id)

variable [Digest]

/-- Delivers a message to `a`, whose client has first learned the latest block of `b`. -/
def deliverA (m : Message) : RelayStep Unit := do
  modify syncA
  onA (Chain.deliver m)

/-- Delivers a message to `b`, whose client has first learned the latest block of `a`. -/
def deliverB (m : Message) : RelayStep Unit := do
  modify syncB
  onB (Chain.deliver m)

end Relay

end ChannelLayer
