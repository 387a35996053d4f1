import ChannelLayer.Packet

/-!
# Upgrades

An upgrade renegotiates the ordering, the connection and the version of a channel. It is kept beside the
channel end, which stays on its old fields until both chains have flushed the packets in flight. An
attempt that is given up leaves an error receipt for the other chain to cancel with.
-/

set_option autoImplicit false

namespace ChannelLayer

structure UpgradeFields where
  order : ChannelOrder
  hops : List ConnectionId
  version : Version
  deriving DecidableEq

/-- The deadline for an attempt to finish, on the clock of the chain that looks at it. -/
structure UpgradeTimeout where
  height : TimeoutHeight
  time : TimeoutTimestamp
  deriving DecidableEq

/-- `nextSend` is zero while the upgrade is only proposed, and from then on the sequence at which the end
stopped sending. -/
structure Upgrade where
  fields : UpgradeFields
  timeout : UpgradeTimeout
  nextSend : Sequence
  deriving DecidableEq

structure ErrorReceipt where
  sequence : UInt64
  message : String
  deriving DecidableEq

namespace UpgradeFields

def text (f : UpgradeFields) : String :=
  "UpgradeFields \x7b ordering: " ++ f.order.text ++ ", connection_hops: "
    ++ bracketed (f.hops.map ConnectionId.text) ++ ", version: " ++ f.version.text ++ " \x7d"

end UpgradeFields

namespace UpgradeTimeout

def atHeight (height : Height) : UpgradeTimeout := ⟨.at height, .never⟩

/-- A deadline at time zero is no deadline. -/
def atTime (time : Timestamp) : UpgradeTimeout := ⟨.never, .ofNanos time.nanos⟩

def isSet (t : UpgradeTimeout) : Bool := t.height.isSet || t.time.isSet

/-- Either bound has been reached. -/
def hasElapsed (t : UpgradeTimeout) (height : Height) (time : Timestamp) : Bool :=
  t.height.hasExpired height || t.time.hasExpired time

def text (t : UpgradeTimeout) : String :=
  "UpgradeTimeout \x7b height: " ++ t.height.text ++ ", timestamp: " ++ t.time.text ++ " \x7d"

end UpgradeTimeout

/-- Why proposed fields are no fields of a channel. -/
inductive FieldsFault where
  | order
  | hops (e : ChannelError)
  | version
  | hopText (e : IdentifierError)
  | timeoutHeight (e : PacketError)
  deriving DecidableEq

def FieldsFault.text : FieldsFault → String
  | .order => "ordering cannot be None"
  | .hops e => e.message
  | .version => "version cannot be empty"
  | .hopText e => e.message
  | .timeoutHeight e => e.message

/-- Why the two ends cannot settle on one upgrade. -/
inductive Disagreement where
  | crossingOrder (proposed localOrder : ChannelOrder)
  | answeredOrder (counterparty proposed : ChannelOrder)
  | connection (hop counterpartyHop : ConnectionId)
  | settled (counterparty expected : UpgradeFields)
  | notInForce (counterparty : ChannelEnd) (fields : UpgradeFields)
  deriving DecidableEq

def Disagreement.text : Disagreement → String
  | .crossingOrder proposed localOrder =>
    "proposed ordering " ++ proposed.text ++ " differs from the local proposal " ++ localOrder.text
  | .answeredOrder counterparty proposed =>
    "counterparty ordering " ++ counterparty.text ++ " differs from the proposed " ++ proposed.text
  | .connection hop counterpartyHop =>
    "connection " ++ hop.text ++ " does not face the proposed counterparty connection "
      ++ counterpartyHop.text
  | .settled counterparty expected =>
    "counterparty settled on " ++ counterparty.text ++ ", expected " ++ expected.text
  | .notInForce counterparty fields =>
    "counterparty channel " ++ counterparty.text ++ " does not run the upgraded fields " ++ fields.text

inductive UpgradeError where
  | channel (e : ChannelError)
  | unchanged
  | invalidFields (fault : FieldsFault)
  | missingFields
  | invalidTimeout
  | notFound (id : EndId)
  | counterpartyNotFound (id : EndId)
  | sequenceMismatch (expected actual : UInt64)
  | sequenceLost (localSequence counterparty : UInt64)
  | indistinguishable (sequence : UInt64)
  | outdated (localSequence counterparty : UInt64)
  | incompatible (cause : Disagreement)
  | timeoutElapsed (timeout : UpgradeTimeout) (height : Height) (time : Timestamp)
  | timeoutNotReached (timeout : UpgradeTimeout) (height : Height) (time : Timestamp)
  | committed (state : ChannelState) (sequence : UInt64)
  | receiptSequence (receipt upgrade : UInt64)
  | channelClosed
  | cancelled (sequence : UInt64)
  | verification (e : ClientError)
  | appModule (description : String)
  deriving DecidableEq

namespace UpgradeError

def endText (id : EndId) : String :=
  "channel (`" ++ id.port.text ++ "`, `" ++ id.channel.text ++ "`)"

def message : UpgradeError → String
  | .channel e => "channel error: `" ++ e.message ++ "`"
  | .unchanged => "proposed upgrade fields are identical to the current channel fields"
  | .invalidFields fault => "invalid upgrade fields: `" ++ fault.text ++ "`"
  | .missingFields => "missing upgrade fields"
  | .invalidTimeout => "upgrade timeout must set a height or a timestamp"
  | .notFound id => "no upgrade in progress for " ++ endText id
  | .counterpartyNotFound id => "no counterparty upgrade recorded for " ++ endText id
  | .sequenceMismatch expected actual =>
    "upgrade sequence mismatch: expected `" ++ decimal expected ++ "`, actual `" ++ decimal actual ++ "`"
  | .sequenceLost localSequence counterparty =>
    "local upgrade at sequence `" ++ decimal localSequence
      ++ "` takes precedence over the counterparty upgrade at sequence `" ++ decimal counterparty ++ "`"
  | .indistinguishable sequence =>
    "both ends proposed the same upgrade at sequence `" ++ decimal sequence
      ++ "` from identical channel ids"
  | .outdated localSequence counterparty =>
    "counterparty upgrade at sequence `" ++ decimal counterparty
      ++ "` is not newer than the local sequence `" ++ decimal localSequence ++ "`"
  | .incompatible cause => "incompatible counterparty upgrade: `" ++ cause.text ++ "`"
  | .timeoutElapsed timeout height time =>
    "upgrade timeout `" ++ timeout.text ++ "` elapsed at height `" ++ height.text
      ++ "` and timestamp `" ++ time.text ++ "`"
  | .timeoutNotReached timeout height time =>
    "upgrade timeout `" ++ timeout.text ++ "` not reached by counterparty height `" ++ height.text
      ++ "` and timestamp `" ++ time.text ++ "`"
  | .committed state sequence =>
    "counterparty has already committed the upgrade: `counterparty channel is " ++ state.text
      ++ " at upgrade sequence " ++ decimal sequence ++ "`"
  | .receiptSequence receipt upgrade =>
    "error receipt sequence `" ++ decimal receipt ++ "` is lower than the upgrade sequence `"
      ++ decimal upgrade ++ "`"
  | .channelClosed => "channel closed while the upgrade was in progress"
  | .cancelled sequence => "upgrade cancelled by the counterparty at sequence `" ++ decimal sequence ++ "`"
  | .verification e => "failed to verify the counterparty upgrade: `" ++ e.message ++ "`"
  | .appModule description => "application rejected the upgrade: `" ++ description ++ "`"

/-- The messages of the errors behind this one, nearest first. -/
def causes : UpgradeError → List String
  | .channel e => e.message :: e.causes
  | .verification e => e.message :: e.causes
  | _ => []

end UpgradeError

namespace UpgradeFields

/-- The proposed hops, checked as part of the proposal. -/
def checkHops (hops : List ConnectionId) : Except UpgradeError Unit :=
  match ChannelLayer.checkHops hops with
  | .ok () => .ok ()
  | .error e => .error (.invalidFields (.hops e))

def check (f : UpgradeFields) : Except UpgradeError Unit := do
  if f.order = .unspecified then throw (.invalidFields .order)
  checkHops f.hops
  if f.version.text.isEmpty then throw (.invalidFields .version)

end UpgradeFields

/-- A deadline with at least one bound. -/
def UpgradeTimeout.ofBounds (height : TimeoutHeight) (time : TimeoutTimestamp) :
    Except UpgradeError UpgradeTimeout :=
  if !height.isSet && !time.isSet then .error .invalidTimeout else .ok ⟨height, time⟩

namespace ChannelEnd

/-- The fields in force. -/
def fields (c : ChannelEnd) : UpgradeFields := ⟨c.order, c.hops, c.version⟩

/-- Puts upgraded fields in force. -/
def withFields (c : ChannelEnd) (f : UpgradeFields) : ChannelEnd :=
  { c with order := f.order, hops := f.hops, version := f.version }

end ChannelEnd

end ChannelLayer
