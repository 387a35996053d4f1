import ChannelLayer.Chain
import ChannelLayer.Json.Event
import ChannelLayer.Text.Hex

/-!
# Listing what a chain holds

A chain is listed by keys: the texts of the store paths, and names of their own for its clock, its counters
and the blocks its clients know. Two listings show what a step has changed.
-/

set_option autoImplicit false

namespace ChannelLayer

/-- What a key of a listing stands for. -/
inductive Listed where
  | text (s : String)
  | number (n : UInt64)
  | flag
  | bytes (b : Bytes)
  | channel (c : ChannelEnd)
  | receipt (r : Receipt)
  | upgrade (u : Upgrade)
  | errorReceipt (r : ErrorReceipt)
  deriving DecidableEq

instance : ToJson Listed where
  toJson
    | .text s => toJson s
    | .number n => toJson n
    | .flag => toJson true
    | .bytes b => toJson (Hex.lower b)
    | .channel c => toJson c
    | .receipt r => toJson r
    | .upgrade u => toJson u
    | .errorReceipt r => toJson r

abbrev Listing := List (String × Listed)

namespace Listing

def single {α : Type} (path : Path) (listed : α → Listed) (value : Option α) : Listing :=
  (value.map fun v => (path.text, listed v)).toList

def ofRecord (id : EndId) (r : ChannelRecord) : Listing :=
  let number (n : Sequence) : Listed := .number n.number
  single (.channel id) .channel r.channel
    ++ single (.nextSend id) number r.nextSend
    ++ single (.nextReceive id) number r.nextReceive
    ++ single (.nextAck id) number r.nextAck
    ++ r.commitments.entries.map (fun e => ((Path.commitment id e.1).text, .bytes e.2))
    ++ r.acks.entries.map (fun e => ((Path.ack id e.1).text, .bytes e.2))
    ++ r.receipts.entries.map (fun e => ((Path.receipt id e.1).text, .receipt e.2))
    ++ single (.upgrade id) .upgrade r.upgrade
    ++ single (.counterpartyUpgrade id) .upgrade r.counterpartyUpgrade
    ++ single (.upgradeError id) .errorReceipt r.errorReceipt
    ++ single (.capability id) (fun c => .number c.index) r.capability

def ofClient (id : ClientId) (c : Client) : Listing :=
  let key (name : String) : String := "clients/" ++ id.text ++ "/" ++ name
  c.consensus.entries.map (fun e => (key e.1.text, .number e.2.nanos))
    ++ (if c.frozen then [(key "frozen", .flag)] else [])

end Listing

/-- Connections and applications are not listed. -/
def Chain.listing (c : Chain) : Listing :=
  [("height", .text c.host.height.text), ("time", .number c.host.time.nanos),
    (Path.nextChannel.text, .number c.store.channelCounter),
    ("capabilityCounter", .number c.store.capabilityCounter)]
    ++ c.store.records.entries.flatMap (fun e => Listing.ofRecord e.1 e.2)
    ++ c.host.clients.entries.flatMap (fun e => Listing.ofClient e.1 e.2)

/-- How a chain differs from what it was. -/
structure Changes where
  set : Listing
  removed : List String
  events : List Event
  logs : List String
  deriving DecidableEq

namespace Changes

/-- Events and log lines are only ever added, so the new ones are those behind the old. -/
def between (before after : Chain) : Changes :=
  let old := before.listing
  let new := after.listing
  { set := new.filter fun e => old.lookup e.1 ≠ some e.2
    removed := ((old.filter fun e => (new.lookup e.1).isNone).map Prod.fst).mergeSort (· ≤ ·)
    events := after.store.events.drop before.store.events.length
    logs := after.store.logs.drop before.store.logs.length }

def members (c : Changes) : List (String × Json) :=
  (if c.set.isEmpty then [] else [("set", .object (c.set.map fun e => (e.1, toJson e.2)))])
    ++ (if c.removed.isEmpty then [] else [("del", toJson c.removed)])
    ++ (if c.events.isEmpty then [] else [("events", toJson c.events)])
    ++ (if c.logs.isEmpty then [] else [("logs", toJson c.logs)])

end Changes

end ChannelLayer
