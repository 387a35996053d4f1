import ChannelLayer.Acknowledgement
import ChannelLayer.Error
import ChannelLayer.Event
import ChannelLayer.Table

/-!
# The store

What a chain keeps about its channels: a record for each channel end, the connections the channels run
over, the counters that new names are drawn from, and the events and log lines emitted so far.
`Store.record` is the view through which everything about a channel end is read, and `Store.update` changes
one end and no other.
-/

set_option autoImplicit false

namespace ChannelLayer

/-- All that is kept about one channel end. -/
structure ChannelRecord where
  channel : Option ChannelEnd := none
  nextSend : Option Sequence := none
  nextReceive : Option Sequence := none
  nextAck : Option Sequence := none
  commitments : Table Sequence Bytes := {}
  receipts : Table Sequence Receipt := {}
  acks : Table Sequence Bytes := {}
  upgrade : Option Upgrade := none
  counterpartyUpgrade : Option Upgrade := none
  errorReceipt : Option ErrorReceipt := none
  capability : Option Capability := none
  deriving DecidableEq

structure Store where
  connections : Table ConnectionId ConnectionEnd := {}
  records : Table EndId ChannelRecord := {}
  channelCounter : UInt64 := 0
  capabilityCounter : UInt64 := 0
  events : List Event := []
  logs : List String := []
  deriving DecidableEq

namespace Store

/-- The record of an end; one that was never touched is empty. -/
def record (s : Store) (id : EndId) : ChannelRecord := (s.records.get? id).getD {}

def update (s : Store) (id : EndId) (f : ChannelRecord → ChannelRecord) : Store :=
  { s with records := s.records.insert id (f (s.record id)) }

@[simp] theorem record_update (s : Store) (id j : EndId) (f : ChannelRecord → ChannelRecord) :
    (s.update id f).record j = if id = j then f (s.record id) else s.record j := by
  by_cases h : id = j <;> simp [record, update, h]

theorem record_update_self (s : Store) (id : EndId) (f : ChannelRecord → ChannelRecord) :
    (s.update id f).record id = f (s.record id) := by simp

theorem record_update_of_ne (s : Store) {id j : EndId} (f : ChannelRecord → ChannelRecord)
    (h : id ≠ j) : (s.update id f).record j = s.record j := by simp [h]

/-- The identifier that the next channel of the chain gets. -/
def nextChannelId (s : Store) : ChannelId := .numbered s.channelCounter

def connection (s : Store) (id : ConnectionId) : Except HandlerError ConnectionEnd :=
  match s.connections.get? id with
  | some c => .ok c
  | none => .error (.connection (.notFound id))

/-- The connection of that name, which has to be open. -/
def openConnection (s : Store) (id : ConnectionId) : Except HandlerError ConnectionEnd := do
  let c ← s.connection id
  c.checkState .opened
  return c

def channel (s : Store) (id : EndId) : Except HandlerError ChannelEnd :=
  match (s.record id).channel with
  | some c => .ok c
  | none => .error (.channel (.notFound id))

def missing {α : Type} (what : String) (path : Path) : Except HandlerError α :=
  .error (.host (.missingData (what ++ " at " ++ path.text)))

def nextSend (s : Store) (id : EndId) : Except HandlerError Sequence :=
  match (s.record id).nextSend with
  | some n => .ok n
  | none => missing "next send sequence" (.nextSend id)

def nextReceive (s : Store) (id : EndId) : Except HandlerError Sequence :=
  match (s.record id).nextReceive with
  | some n => .ok n
  | none => missing "next recv sequence" (.nextReceive id)

def nextAck (s : Store) (id : EndId) : Except HandlerError Sequence :=
  match (s.record id).nextAck with
  | some n => .ok n
  | none => missing "next ack sequence" (.nextAck id)

def commitment (s : Store) (id : EndId) (n : Sequence) : Except HandlerError Bytes :=
  match (s.record id).commitments.get? n with
  | some bytes => .ok bytes
  | none => .error (.packet (.noCommitment n))

def ack (s : Store) (id : EndId) (n : Sequence) : Except HandlerError Bytes :=
  match (s.record id).acks.get? n with
  | some bytes => .ok bytes
  | none => missing "acknowledgement" (.ack id n)

def receipt (s : Store) (id : EndId) (n : Sequence) : Receipt :=
  ((s.record id).receipts.get? n).getD .none

def upgrade (s : Store) (id : EndId) : Except HandlerError Upgrade :=
  match (s.record id).upgrade with
  | some u => .ok u
  | none => .error (.upgrade (.notFound id))

def counterpartyUpgrade (s : Store) (id : EndId) : Except HandlerError Upgrade :=
  match (s.record id).counterpartyUpgrade with
  | some u => .ok u
  | none => .error (.upgrade (.counterpartyNotFound id))

/-- The sequences with a packet in flight, in ascending order. -/
def inFlight (s : Store) (id : EndId) : List Sequence := (s.record id).commitments.keys.mergeSort (· ≤ ·)

/-- Nothing sent from the end is still in flight. -/
def isFlushed (s : Store) (id : EndId) : Bool := (s.record id).commitments.isEmpty

/-- The end has no owner that could have lost it. -/
def checkUnclaimed (s : Store) (id : EndId) : Except HostError Unit :=
  if (s.record id).capability.isSome then .error (.capabilityClaimed (Path.capability id).text) else .ok ()

/-- The end is owned. -/
def checkClaimed (s : Store) (id : EndId) : Except HostError Unit :=
  if (s.record id).capability.isSome then .ok () else .error (.capabilityMissing (Path.capability id).text)

/-- `handle` is the one that owns the end. -/
def authenticates (s : Store) (handle : Capability) (id : EndId) : Bool :=
  (s.record id).capability = some handle

end Store

end ChannelLayer
