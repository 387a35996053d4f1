import ChannelLayer.Connection
import ChannelLayer.Upgrade

/-!
# Errors of a handler

A handler fails with the error of the part it was in. The parts raise their own errors; inside a handler
they are lifted to `HandlerError`.
-/

set_option autoImplicit false

namespace ChannelLayer

/-- What goes wrong with the chain's own bookkeeping. -/
inductive HostError where
  | missingData (description : String)
  | notStored (description : String)
  | capabilityClaimed (path : String)
  | capabilityMissing (path : String)
  | capabilityDenied (path : String)
  | signer (description : String)
  | other (description : String)
  deriving DecidableEq

def HostError.message : HostError → String
  | .missingData description => "missing data: `" ++ description ++ "`"
  | .notStored description => "failed to store data: `" ++ description ++ "`"
  | .capabilityClaimed path => "capability for `" ++ path ++ "` is already claimed"
  | .capabilityMissing path => "capability for `" ++ path ++ "` not found"
  | .capabilityDenied path => "capability does not authenticate `" ++ path ++ "`"
  | .signer description => "invalid signer: `" ++ description ++ "`"
  | .other description => "other error: `" ++ description ++ "`"

/-- No application could be found for a message. -/
inductive RouteError where
  | host (e : HostError)
  | noModule
  | unknownPort (port : PortId)
  deriving DecidableEq

namespace RouteError

def message : RouteError → String
  | .host e => "host error: " ++ e.message
  | .noModule => "module not found"
  | .unknownPort port => "unknown port `" ++ port.text ++ "`"

/-- The messages of the errors behind this one, nearest first. -/
def causes : RouteError → List String
  | .host e => [e.message]
  | .noModule | .unknownPort _ => []

end RouteError

/-- Why raw data is no message. -/
inductive RawDataError where
  | identifier (e : IdentifierError)
  | invalid (description : String)
  | missing (description : String)
  deriving DecidableEq

namespace RawDataError

def message : RawDataError → String
  | .identifier e => "identifier error: `" ++ e.message ++ "`"
  | .invalid description => "invalid raw data: `" ++ description ++ "`"
  | .missing description => "missing raw data: `" ++ description ++ "`"

/-- The messages of the errors behind this one, nearest first. -/
def causes : RawDataError → List String
  | .identifier e => [e.message]
  | .invalid _ | .missing _ => []

end RawDataError

/-- `noHop` is the fault of running an unchecked message on an end without a connection. -/
inductive HandlerError where
  | client (e : ClientError)
  | connection (e : ConnectionError)
  | channel (e : ChannelError)
  | packet (e : PacketError)
  | upgrade (e : UpgradeError)
  | route (e : RouteError)
  | host (e : HostError)
  | noHop
  deriving DecidableEq

namespace HandlerError

def message : HandlerError → String
  | .client e => "client error: " ++ e.message
  | .connection e => "connection error: " ++ e.message
  | .channel e => "channel error: " ++ e.message
  | .packet e => "packet error: " ++ e.message
  | .upgrade e => "channel upgrade error: " ++ e.message
  | .route e => "routing error: " ++ e.message
  | .host e => "host error: " ++ e.message
  | .noHop => "channel end without a connection"

/-- The messages of the errors behind this one, nearest first. -/
def causes : HandlerError → List String
  | .client e => e.message :: e.causes
  | .connection e => [e.message]
  | .channel e => e.message :: e.causes
  | .packet e => e.message :: e.causes
  | .upgrade e => e.message :: e.causes
  | .route e => e.message :: e.causes
  | .host e => [e.message]
  | .noHop => []

/-- The error was raised by a proof about the other chain. -/
def isVerificationFailure : HandlerError → Bool
  | .channel (.verification _) | .packet (.verification ..) | .upgrade (.verification _) => true
  | _ => false

end HandlerError

instance : MonadLift (Except ClientError) (Except HandlerError) := ⟨Except.mapError .client⟩
instance : MonadLift (Except ConnectionError) (Except HandlerError) := ⟨Except.mapError .connection⟩
instance : MonadLift (Except ChannelError) (Except HandlerError) := ⟨Except.mapError .channel⟩
instance : MonadLift (Except PacketError) (Except HandlerError) := ⟨Except.mapError .packet⟩
instance : MonadLift (Except UpgradeError) (Except HandlerError) := ⟨Except.mapError .upgrade⟩
instance : MonadLift (Except RouteError) (Except HandlerError) := ⟨Except.mapError .route⟩
instance : MonadLift (Except HostError) (Except HandlerError) := ⟨Except.mapError .host⟩

/-- The connection that a channel runs over. -/
def firstHop : List ConnectionId → Except HandlerError ConnectionId
  | hop :: _ => .ok hop
  | [] => .error .noHop

/-- Every message is signed by someone. -/
def Signer.check (s : Signer) : Except HandlerError Unit :=
  if s.isEmpty then .error (.host (.signer "empty signer")) else .ok ()

end ChannelLayer
