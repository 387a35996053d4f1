import ChannelLayer.Bytes
import ChannelLayer.Identifier
import ChannelLayer.Text.Bracketed

/-!
# Connections

A channel runs over one connection, which names the light client that checks proofs about the other
chain, the other chain's end of the connection once it is known, and the prefix under which the other
chain keeps what it proves.
-/

set_option autoImplicit false

namespace ChannelLayer

inductive ConnectionState where
  | uninitialized
  | init
  | tryOpen
  | opened
  deriving DecidableEq

def ConnectionState.text : ConnectionState → String
  | .uninitialized => "UNINITIALIZED"
  | .init => "INIT"
  | .tryOpen => "TRYOPEN"
  | .opened => "OPEN"

structure ConnectionCounterparty where
  client : ClientId
  connection : Option ConnectionId
  storePrefix : Bytes
  deriving DecidableEq

structure ConnectionEnd where
  state : ConnectionState
  client : ClientId
  remote : ConnectionCounterparty
  deriving DecidableEq

inductive ConnectionError where
  | notFound (connection : ConnectionId)
  | state (expected actual : ConnectionState)
  | missingCounterparty
  deriving DecidableEq

def ConnectionError.message : ConnectionError → String
  | .notFound connection => "connection `" ++ connection.text ++ "` not found"
  | .state expected actual =>
    "invalid connection state: expected `" ++ expected.text ++ "`, actual `" ++ actual.text ++ "`"
  | .missingCounterparty => "missing counterparty connection identifier"

namespace ConnectionEnd

def isOpen (c : ConnectionEnd) : Bool := c.state = .opened

def checkState (c : ConnectionEnd) (expected : ConnectionState) : Except ConnectionError Unit :=
  if c.state = expected then .ok () else .error (.state expected c.state)

/-- The other chain's end of the connection. -/
def remoteConnection (c : ConnectionEnd) : Except ConnectionError ConnectionId :=
  match c.remote.connection with
  | some id => .ok id
  | none => .error .missingCounterparty

end ConnectionEnd

/-- A store prefix for display: its text, or its bytes where they are no text. -/
def prefixText (bytes : Bytes) : String :=
  match bytes.text? with
  | some text => text
  | none =>
    "<not valid UTF8: " ++ bracketed (bytes.map fun b => Nat.repr b.toNat) ++ ">"

end ChannelLayer
