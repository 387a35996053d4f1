import ChannelLayer.Transfer.Receive

/-!
# Queries

What relayers ask about a list of packets: which of them an end has not received, and which of its own are
still in flight.
-/

set_option autoImplicit false

namespace ChannelLayer.Store

/-- Those of `sequences` that the end has not received. -/
def unreceivedPackets (s : Store) (id : EndId) (sequences : List Sequence) :
    Except HandlerError (List Sequence) := do
  let c ← s.channel id
  match c.order with
  | .ordered => do
    let next ← s.nextReceive id
    return sequences.filter (next ≤ ·)
  | _ => return sequences.filter fun n => s.receipt id n = .none

/-- Those of `sequences` that the end has sent and that are not settled. -/
def unreceivedAcks (s : Store) (id : EndId) (sequences : List Sequence) : List Sequence :=
  sequences.filter (s.inFlight id).contains

end ChannelLayer.Store
