import ChannelLayer.Client.Error
import ChannelLayer.Connection

/-!
# Channel ends

A channel has an end on each of its two chains. An end knows its state, the ordering of its packets, the
port and channel of the other end, the connection it runs over, the version its applications agreed on,
and how many upgrade attempts it has been part of.
-/

set_option autoImplicit false

namespace ChannelLayer

inductive ChannelState where
  | uninitialized
  | init
  | tryOpen
  | opened
  | closed
  | flushing
  | flushComplete
  | initUpgrade
  | tryUpgrade
  deriving DecidableEq

namespace ChannelState

def text : ChannelState → String
  | .uninitialized => "UNINITIALIZED"
  | .init => "INIT"
  | .tryOpen => "TRYOPEN"
  | .opened => "OPEN"
  | .closed => "CLOSED"
  | .flushing => "FLUSHING"
  | .flushComplete => "FLUSHCOMPLETE"
  | .initUpgrade => "INITUPGRADE"
  | .tryUpgrade => "TRYUPGRADE"

/-- An upgrade attempt is under way. -/
def isUpgrading : ChannelState → Bool
  | .initUpgrade | .tryUpgrade | .flushing | .flushComplete => true
  | _ => false

/-- The owner of the end may send packets. -/
def isSending : ChannelState → Bool
  | .opened | .initUpgrade => true
  | _ => false

end ChannelState

inductive ChannelOrder where
  | unspecified
  | unordered
  | ordered
  deriving DecidableEq

def ChannelOrder.text : ChannelOrder → String
  | .unspecified => "ORDER_NONE_UNSPECIFIED"
  | .unordered => "ORDER_UNORDERED"
  | .ordered => "ORDER_ORDERED"

/-- The other end of a channel; its channel identifier is unknown at first. -/
structure Counterparty where
  port : PortId
  channel : Option ChannelId
  deriving DecidableEq

namespace Counterparty

/-- The counterparty that is the end `id` of the other chain. -/
def ofEnd (id : EndId) : Counterparty := ⟨id.port, some id.channel⟩

def text (c : Counterparty) : String :=
  "Counterparty(port_id: " ++ c.port.text ++ ", channel_id: "
    ++ (match c.channel with
        | some channel => channel.text
        | none => "None") ++ ")"

end Counterparty

structure ChannelEnd where
  state : ChannelState
  order : ChannelOrder
  remote : Counterparty
  hops : List ConnectionId
  version : Version
  upgradeSequence : UInt64
  deriving DecidableEq

/-- What the state of an end was required to be. -/
inductive StateDemand where
  | initialized
  | exactly (state : ChannelState)
  | oneOf (states : List ChannelState)
  | notClosed
  | sending
  | counterpartyFlushing
  | counterpartyFlushed
  deriving DecidableEq

def StateDemand.text : StateDemand → String
  | .initialized => "Channel state cannot be Uninitialized"
  | .exactly state => state.text
  | .oneOf states => "one of " ++ bracketed (states.map ChannelState.text)
  | .notClosed => "Channel state cannot be Closed"
  | .sending => "Channel state must be OPEN or INITUPGRADE"
  | .counterpartyFlushing => "Counterparty channel state must be FLUSHING or FLUSHCOMPLETE"
  | .counterpartyFlushed => "Counterparty channel state must be FLUSHCOMPLETE, OPEN or INITUPGRADE"

/-- What the ordering of an end was required to be. -/
inductive OrderDemand where
  | specified
  | exactly (order : ChannelOrder)
  deriving DecidableEq

def OrderDemand.text : OrderDemand → String
  | .specified => "Channel ordering cannot be None"
  | .exactly order => order.text

inductive ChannelError where
  | appModule (description : String)
  | identifier (e : IdentifierError)
  | state (expected : StateDemand) (actual : ChannelState)
  | stateCode (code : Int)
  | order (expected : OrderDemand) (actual : ChannelOrder)
  | orderCode (code : Int)
  | orderText (text : String)
  | hopsLength (actual : Nat)
  | counterparty (expected actual : Counterparty)
  | missingCounterparty
  | notFound (id : EndId)
  | alreadyExists (id : EndId)
  | activeChannel (id : EndId) (connection : ConnectionId)
  | verification (e : ClientError)
  deriving DecidableEq

namespace ChannelError

def mismatch (what expected actual : String) : String :=
  "invalid " ++ what ++ ": expected `" ++ expected ++ "`, actual `" ++ actual ++ "`"

def channelEndText (id : EndId) : String :=
  "channel end (`" ++ id.port.text ++ "`, `" ++ id.channel.text ++ "`)"

def message : ChannelError → String
  | .appModule description => "application module error: `" ++ description ++ "`"
  | .identifier e => "identifier error: `" ++ e.message ++ "`"
  | .state expected actual => mismatch "channel state" expected.text actual.text
  | .stateCode code =>
    mismatch "channel state" "Must be one of: 0, 1, 2, 3, 4, 5, 6, 7, 8" (Int.repr code)
  | .order expected actual => mismatch "channel order type" expected.text actual.text
  | .orderCode code => mismatch "channel order type" "Must be one of 0, 1, 2" (Int.repr code)
  | .orderText text =>
    mismatch "channel order type" "Must be one of 'uninitialized', 'unordered', 'ordered'" text
  | .hopsLength actual => mismatch "connection hops length" "1" (Nat.repr actual)
  | .counterparty expected actual => mismatch "counterparty" expected.text actual.text
  | .missingCounterparty => "missing counterparty"
  | .notFound id => channelEndText id ++ " does not exist"
  | .alreadyExists id => channelEndText id ++ " already exists"
  | .activeChannel id connection =>
    "channel `" ++ id.channel.text ++ "` on port `" ++ id.port.text
      ++ "` is still active for connection `" ++ connection.text ++ "`"
  | .verification e => "failed to verify the counterparty channel end: `" ++ e.message ++ "`"

/-- The messages of the errors behind this one, nearest first. -/
def causes : ChannelError → List String
  | .identifier e => [e.message]
  | .verification e => e.message :: e.causes
  | _ => []

end ChannelError

namespace ChannelState

/-- The number that stands for a state in what a chain commits to. -/
def code : ChannelState → Nat
  | .uninitialized => 0
  | .init => 1
  | .tryOpen => 2
  | .opened => 3
  | .closed => 4
  | .flushing => 5
  | .flushComplete => 6
  | .initUpgrade => 7
  | .tryUpgrade => 8

def ofCode : Int → Except ChannelError ChannelState
  | 0 => .ok .uninitialized
  | 1 => .ok .init
  | 2 => .ok .tryOpen
  | 3 => .ok .opened
  | 4 => .ok .closed
  | 5 => .ok .flushing
  | 6 => .ok .flushComplete
  | 7 => .ok .initUpgrade
  | 8 => .ok .tryUpgrade
  | code => .error (.stateCode code)

@[simp] theorem ofCode_code (s : ChannelState) : ofCode s.code = .ok s := by cases s <;> rfl

end ChannelState

namespace ChannelOrder

/-- The number that stands for an ordering in what a chain commits to. -/
def code : ChannelOrder → Nat
  | .unspecified => 0
  | .unordered => 1
  | .ordered => 2

def ofCode : Int → Except ChannelError ChannelOrder
  | 0 => .ok .unspecified
  | 1 => .ok .unordered
  | 2 => .ok .ordered
  | code => .error (.orderCode code)

@[simp] theorem ofCode_code (o : ChannelOrder) : ofCode o.code = .ok o := by cases o <;> rfl

/-- `cs` without the copies of `order_` it starts with. -/
def dropLabel : List Char → List Char
  | 'o' :: 'r' :: 'd' :: 'e' :: 'r' :: '_' :: cs => dropLabel cs
  | cs => cs

/-- Reads the name of an ordering in any mix of cases. No character outside ASCII has a lower case
among the letters of these names. -/
def ofText (s : String) : Except ChannelError ChannelOrder :=
  let name := String.ofList (dropLabel (s.toList.map Char.toLower))
  if name = "uninitialized" ∨ name = "none_unspecified" then .ok .unspecified
  else if name = "unordered" then .ok .unordered
  else if name = "ordered" then .ok .ordered
  else .error (.orderText s)

end ChannelOrder

/-- Channels run over a single connection. -/
def checkHops (hops : List ConnectionId) : Except ChannelError Unit :=
  if hops.length = 1 then .ok () else .error (.hopsLength hops.length)

/-- Every channel has an ordering. -/
def checkOrder (order : ChannelOrder) : Except ChannelError Unit :=
  if order = .unspecified then .error (.order .specified order) else .ok ()

namespace ChannelEnd

def text (c : ChannelEnd) : String :=
  "ChannelEnd \x7b state: " ++ c.state.text ++ ", ordering: " ++ c.order.text ++ ", remote: "
    ++ c.remote.text ++ ", connection_hops: " ++ bracketed (c.hops.map ConnectionId.text)
    ++ ", version: " ++ c.version.text ++ ", upgrade_sequence: " ++ decimal c.upgradeSequence
    ++ " \x7d"

def checkInitialized (c : ChannelEnd) : Except ChannelError Unit :=
  if c.state = .uninitialized then .error (.state .initialized c.state) else .ok ()

/-- What every channel end satisfies, whatever its state. -/
def check (c : ChannelEnd) : Except ChannelError Unit := do
  c.checkInitialized
  checkOrder c.order
  checkHops c.hops

/-- `c`, once checked. -/
def checked (c : ChannelEnd) : Except ChannelError ChannelEnd := do
  c.check
  return c

def checkState (c : ChannelEnd) (expected : ChannelState) : Except ChannelError Unit :=
  if c.state = expected then .ok () else .error (.state (.exactly expected) c.state)

def checkStateIn (c : ChannelEnd) (allowed : List ChannelState) : Except ChannelError Unit :=
  if c.state ∈ allowed then .ok () else .error (.state (.oneOf allowed) c.state)

def checkNotClosed (c : ChannelEnd) : Except ChannelError Unit :=
  if c.state = .closed then .error (.state .notClosed c.state) else .ok ()

def checkRemote (c : ChannelEnd) (expected : Counterparty) : Except ChannelError Unit :=
  if c.remote = expected then .ok () else .error (.counterparty expected c.remote)

/-- The end of the other chain that `c` is joined to. -/
def remoteEnd (c : ChannelEnd) : Except ChannelError EndId :=
  match c.remote.channel with
  | some channel => .ok ⟨c.remote.port, channel⟩
  | none => .error .missingCounterparty

end ChannelEnd

end ChannelLayer
