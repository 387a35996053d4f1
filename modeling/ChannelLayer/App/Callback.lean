import ChannelLayer.Acknowledgement
import ChannelLayer.Event

/-!
# What applications are asked and told

An application owns the channels of its port. The chain asks it before it accepts a message, where it can
object, and tells it when the message takes effect, where it can add events and log lines of its own.
-/

set_option autoImplicit false

namespace ChannelLayer

/-- Events and log lines that an application adds to those of the chain. -/
structure Extras where
  events : List ModuleEvent := []
  log : List String := []
  deriving DecidableEq

/-- The moments at which an application is asked (`check…`) or told something. -/
inductive Callback where
  | checkOpenInit
  | openInit
  | checkOpenTry
  | openTry
  | activeChannel
  | reopen
  | checkOpenAck
  | openAck
  | checkOpenConfirm
  | openConfirm
  | checkCloseInit
  | closeInit
  | checkCloseConfirm
  | closeConfirm
  | receive
  | checkAcknowledge
  | acknowledge
  | checkTimeout
  | timeout
  | checkUpgradeInit
  | upgradeInit
  | upgradeTry
  | upgradeAck
  | upgradeOpen
  | upgradeRestore
  deriving DecidableEq

/-- A channel end that is about to be made: its names, what it is joined to, and the version that was
asked for. -/
structure OpenRequest where
  id : EndId
  remote : Counterparty
  order : ChannelOrder
  hops : List ConnectionId
  version : Version
  deriving DecidableEq

/-- The answer to a packet that was taken in. -/
def successAck : Acknowledgement := (AckStatus.success "AQ==").toAck

/-- The answer to a packet that was turned down. -/
def failureAck : Acknowledgement := (AckStatus.failure "receive rejected").toAck

end ChannelLayer
