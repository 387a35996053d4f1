import ChannelLayer.Chain

/-!
# Setting a chain up

Ways to put a chain into a state without going through messages: clients, connections and records as they
would be found on a chain that has been running.
-/

set_option autoImplicit false

namespace ChannelLayer

/-- What a client is set up with: its latest block and the heights of earlier ones. -/
structure ClientSetup where
  id : ClientId
  height : Height
  time : Timestamp := ⟨0⟩
  earlier : List Height := []
  frozen : Bool := false
  deriving DecidableEq

/-- `a - b` and `a * b`, stopping at the ends of the 64-bit numbers. -/
def saturatingSub (a b : UInt64) : UInt64 := UInt64.ofNat (a.toNat - b.toNat)

def saturatingMul (a b : UInt64) : UInt64 :=
  UInt64.ofNat (min (a.toNat * b.toNat) (UInt64.size - 1))

namespace Host

/-- The time of a block below the latest one, with one block time between blocks. -/
def earlierTime (h : Host) (setup : ClientSetup) (height : Height) : Timestamp :=
  let behind := saturatingSub setup.height.block height.block
  ⟨saturatingSub setup.time.nanos (saturatingMul behind h.blockTime)⟩

def addClient (h : Host) (setup : ClientSetup) : Host :=
  let earlier := setup.earlier.foldl (fun cs height =>
    cs.update setup.id height (h.earlierTime setup height)) h.clients
  let clients := earlier.update setup.id setup.height setup.time
  { h with clients := if setup.frozen then clients.freeze setup.id else clients }

/-- The number of blocks until the host is at `target`; blocks never lead to another revision. -/
def blocksUpTo? (h : Host) (target : Height) : Option Nat :=
  if target ≤ h.height then some 0
  else if h.height.revision = target.revision then
    some (target.block.toNat - h.height.block.toNat)
  else none

/-- The host once it has reached `target`, if it ever does. -/
def advanceUpTo? (h : Host) (target : Height) : Option Host :=
  (h.blocksUpTo? target).map h.advanceBlocks

end Host

namespace Store

def setConnection (s : Store) (id : ConnectionId) (c : ConnectionEnd) : Store :=
  { s with connections := s.connections.insert id c }

def dropConnection (s : Store) (id : ConnectionId) : Store :=
  { s with connections := s.connections.erase id }

/-- The counter of a chain on which the channel exists. -/
def counterPast (channel : ChannelId) : UInt64 :=
  match channel.counter? with
  | some n => n + 1
  | none => 0

/-- A channel with an owner, as if it had been opened by messages. -/
def setOwnedChannel (s : Store) (id : EndId) (c : ChannelEnd) : Store :=
  let handle : Capability := ⟨s.capabilityCounter + 1⟩
  let s := (s.setChannel id c).update id fun r => { r with capability := some handle }
  { s with
    capabilityCounter := handle.index
    channelCounter := max s.channelCounter (counterPast id.channel) }

def setNextSend (s : Store) (id : EndId) (n : Sequence) : Store :=
  s.update id fun r => { r with nextSend := some n }

def setCommitment (s : Store) (id : EndId) (n : Sequence) (bytes : Bytes) : Store :=
  s.update id fun r => { r with commitments := r.commitments.insert n bytes }

def setReceipt (s : Store) (id : EndId) (n : Sequence) (receipt : Receipt) : Store :=
  s.update id fun r => { r with receipts := r.receipts.insert n receipt }

def dropUpgrade (s : Store) (id : EndId) : Store := s.update id fun r => { r with upgrade := none }

def dropCounterpartyUpgrade (s : Store) (id : EndId) : Store :=
  s.update id fun r => { r with counterpartyUpgrade := none }

end Store

end ChannelLayer
