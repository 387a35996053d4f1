import ChannelLayer.App
import ChannelLayer.Store

/-!
# Executing a message

Execution changes the store and, at times, the application. What it has changed before it fails stays
changed; undoing it is left to whoever runs the message.
-/

set_option autoImplicit false

namespace ChannelLayer

/-- What a message may change. -/
structure Ledger where
  store : Store
  app : App
  deriving DecidableEq

abbrev Exec := EStateM HandlerError Ledger

instance {σ : Type} : MonadLift (Except HandlerError) (EStateM HandlerError σ) where
  monadLift
    | .ok a => pure a
    | .error e => throw e

namespace Store

def setChannel (s : Store) (id : EndId) (c : ChannelEnd) : Store :=
  s.update id fun r => { r with channel := some c }

/-- The end can send, receive and acknowledge its first packet. -/
def startCounting (s : Store) (id : EndId) : Store :=
  s.update id fun r =>
    { r with nextSend := some .one, nextReceive := some .one, nextAck := some .one }

def emit (s : Store) (e : Event) : Store := { s with events := s.events ++ [e] }

def log (s : Store) (line : String) : Store := { s with logs := s.logs ++ [line] }

/-- An event of the channel layer follows a message event that announces its module. -/
def report (s : Store) (e : Event) : Store := (s.emit .channelMessage).emit e

/-- Takes over what an application adds: all events first, then all log lines. -/
def addExtras (s : Store) (extras : Extras) : Store :=
  { s with events := s.events ++ extras.events.map Event.application, logs := s.logs ++ extras.log }

@[simp] theorem record_log (s : Store) (line : String) : (s.log line).record = s.record := rfl

@[simp] theorem record_report (s : Store) (e : Event) : (s.report e).record = s.record := rfl

@[simp] theorem record_addExtras (s : Store) (extras : Extras) :
    (s.addExtras extras).record = s.record := rfl

/-- Gives the end an owner, with a handle that no end had before. -/
def claim (s : Store) (id : EndId) : Except HandlerError (Capability × Store) := do
  s.checkUnclaimed id
  let handle : Capability := ⟨s.capabilityCounter + 1⟩
  let s := { s with capabilityCounter := s.capabilityCounter + 1 }
  return (handle, s.update id fun r => { r with capability := some handle })

/-- Takes the end from its owner. -/
def release (s : Store) (handle : Capability) (id : EndId) : Except HostError Store := do
  s.checkClaimed id
  if !s.authenticates handle id then throw (.capabilityDenied (Path.capability id).text)
  return s.update id fun r => { r with capability := none }

end Store

namespace Exec

def store : Exec Store := return (← get).store

def app : Exec App := return (← get).app

def update (f : Store → Store) : Exec Unit := modify fun l => { l with store := f l.store }

def setApp (a : App) : Exec Unit := modify fun l => { l with app := a }

def setChannel (id : EndId) (c : ChannelEnd) : Exec Unit := update (·.setChannel id c)

def log (line : String) : Exec Unit := update (·.log line)

def report (e : Event) : Exec Unit := update (·.report e)

def addExtras (extras : Extras) : Exec Unit := update (·.addExtras extras)

end Exec

end ChannelLayer
