import ChannelLayer.Dispatch
import ChannelLayer.Router
import ChannelLayer.Store.Value

/-!
# Chains

A chain is a host, a store and the applications bound to its ports. Delivering a message runs it against
all three and seals a block; a message that fails leaves the store as it was and seals none.
-/

set_option autoImplicit false

namespace ChannelLayer

structure Chain where
  host : Host := {}
  store : Store := {}
  router : Router := {}
  deriving DecidableEq

/-- A step of a chain, which may fail after it has changed something. -/
abbrev ChainStep := EStateM HandlerError Chain

namespace Chain

def advanceBlock (c : Chain) : Chain := { c with host := c.host.advanceBlock }

def advanceTime (c : Chain) (duration : UInt64) : Chain :=
  { c with host := c.host.advanceTime duration }

/-- The chain after the application `id` has run on its store. -/
def afterRun (c : Chain) (id : ModuleId) (l : Ledger) : Chain :=
  { c with store := l.store, router := c.router.setModule id l.app }

/-- Runs a step that concerns the store alone. -/
def onStore {α : Type} (step : EStateM HandlerError Store α) : ChainStep α := fun c =>
  match step c.store with
  | .ok a s => .ok a { c with store := s }
  | .error e s => .error e { c with store := s }

variable [Digest]

def validate (c : Chain) (m : Message) : Except HandlerError Unit := do
  let (_, app) ← c.router.find m.port
  m.validate c.host c.store app

def execute (m : Message) : ChainStep Unit := fun c =>
  match c.router.find m.port with
  | .error e => .error (.route e) c
  | .ok (id, app) =>
    match m.execute c.host ⟨c.store, app⟩ with
    | .ok () l => .ok () (c.afterRun id l)
    | .error e l => .error e (c.afterRun id l)

/-- Checks a message and lets it take effect. -/
def dispatch (m : Message) : ChainStep Unit := do
  (← get).validate m
  execute m

/-- Dispatches a message in a block of its own. -/
def deliver (m : Message) : ChainStep Unit := fun c =>
  match dispatch m c with
  | .ok () c => .ok () c.advanceBlock
  | .error e failed => .error e { failed with store := c.store }

/-- Sends a packet for whoever shows `handle`. -/
def send (handle : Capability) (p : Packet) : ChainStep Unit := do
  let c ← get
  p.validateSend c.host c.store handle
  onStore p.executeSend

/-- What the chain proves about a path at its present height: the value there, or its absence. -/
def prove (c : Chain) (path : Path) : Bytes :=
  match c.store.valueAt? path with
  | some value => Proof.membership c.host.height c.host.storePrefix path value
  | none => Proof.absence c.host.height c.host.storePrefix path

end Chain

end ChannelLayer
