import ChannelLayer.Exec
import ChannelLayer.Host

/-!
# How an upgrade attempt ends

An attempt is committed, which puts the agreed fields in force, or given up, which leaves the channel open
on the fields it had and an error receipt for the other chain. Before it is committed an end flushes: it
stops sending and waits until none of its packets is in flight.
-/

set_option autoImplicit false

namespace ChannelLayer

namespace Store

/-- Drops both upgrade records of an end. -/
def clearUpgrade (s : Store) (id : EndId) : Store :=
  s.update id fun r => { r with upgrade := none, counterpartyUpgrade := none }

def setUpgrade (s : Store) (id : EndId) (u : Upgrade) : Store :=
  s.update id fun r => { r with upgrade := some u }

def setCounterpartyUpgrade (s : Store) (id : EndId) (u : Upgrade) : Store :=
  s.update id fun r => { r with counterpartyUpgrade := some u }

def setErrorReceipt (s : Store) (id : EndId) (receipt : ErrorReceipt) : Store :=
  s.update id fun r => { r with errorReceipt := some receipt }

/-- The state of an end that stops sending. -/
def flushState (s : Store) (id : EndId) : ChannelState :=
  if s.isFlushed id then .flushComplete else .flushing

/-- The receive and acknowledgement counters of an end that becomes ordered: each goes on where the
sending stopped. -/
def resumeCounting (s : Store) (id : EndId) (u counterparty : Upgrade) : Store :=
  s.update id fun r =>
    { r with nextReceive := some counterparty.nextSend, nextAck := some u.nextSend }

end Store

namespace Host

/-- Why an upgrade with this deadline is too late on this chain, if it is. -/
def upgradeElapsed? (h : Host) (timeout : UpgradeTimeout) : Option UpgradeError :=
  if timeout.hasElapsed h.height h.time then some (.timeoutElapsed timeout h.height h.time) else none

end Host

namespace ChannelEnd

/-- The end after an attempt was given up: the next one starts above it. -/
def reopened (c : ChannelEnd) : ChannelEnd :=
  { c with state := .opened, upgradeSequence := c.upgradeSequence + 1 }

/-- The end after an upgrade to `f`. -/
def upgraded (c : ChannelEnd) (f : UpgradeFields) : ChannelEnd :=
  { c.withFields f with state := .opened }

/-- What an end leaves behind for the other one when an attempt fails. -/
def receiptFor (c : ChannelEnd) (e : UpgradeError) : ErrorReceipt := ⟨c.upgradeSequence, e.message⟩

end ChannelEnd

namespace Exec

/-- Leaves an error receipt and nothing else. -/
def writeReceipt (id : EndId) (c : ChannelEnd) (e : UpgradeError) : Exec Unit := do
  update (·.setErrorReceipt id (c.receiptFor e))
  log ("channel upgrade error: " ++ e.message)
  report (.upgradeError (.ofEnd id c) c.state (c.receiptFor e))

/-- Gives the attempt up. -/
def abortUpgrade (id : EndId) (c : ChannelEnd) (e : UpgradeError) : Exec Unit := do
  setChannel id c.reopened
  update (·.clearUpgrade id)
  update (·.setErrorReceipt id (c.receiptFor e))
  log ("channel upgrade aborted: " ++ e.message)
  report (.upgradeError (.ofEnd id c.reopened) c.reopened.state (c.receiptFor e))
  addExtras (← app).upgradeRestore

/-- Puts the agreed fields in force. -/
def commitUpgrade (id : EndId) (c : ChannelEnd) : Exec Unit := do
  let u ← (← store).upgrade id
  let counterparty ← (← store).counterpartyUpgrade id
  if c.order = .unordered ∧ u.fields.order = .ordered then
    update (·.resumeCounting id u counterparty)
  setChannel id (c.upgraded u.fields)
  update (·.clearUpgrade id)
  log "success: channel upgrade open"
  report (.upgrade .opened (.ofEnd id (c.upgraded u.fields)) u.fields)
  addExtras ((← app).upgradeOpen id u.fields.version)

/-- Follows up on the settling of a packet sent from a flushing end: too late it gives the attempt up, and
with the last packet in flight it has flushed. -/
def completeFlush (host : Host) (id : EndId) : Exec Unit := do
  let c ← (← store).channel id
  if c.state ≠ .flushing then return
  let counterparty ← (← store).counterpartyUpgrade id
  match host.upgradeElapsed? counterparty.timeout with
  | some e => abortUpgrade id c e
  | none =>
    if (← store).isFlushed id then
      setChannel id { c with state := .flushComplete }
      log ("channel (" ++ id.port.text ++ ", " ++ id.channel.text ++ ") finished flushing")

end Exec

end ChannelLayer
