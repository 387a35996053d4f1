import ChannelLayer.Handshake.Closing
import ChannelLayer.Handshake.Opening
import ChannelLayer.Transfer.Receive
import ChannelLayer.Transfer.Settle
import ChannelLayer.Upgrading.Conclusion
import ChannelLayer.Upgrading.Flushing

/-!
# Messages and their handlers

What each message is checked for, and what it does once it has passed.
-/

set_option autoImplicit false

namespace ChannelLayer.Message

variable [Digest]

/-- Whether the message can take effect. -/
def validate (m : Message) (host : Host) (s : Store) (app : App) : Except HandlerError Unit :=
  match m with
  | .openInit m => m.validate s app
  | .openTry m => m.validate host s app
  | .openAck m => m.validate host s app
  | .openConfirm m => m.validate host s app
  | .closeInit m => m.validate s app
  | .closeConfirm m => m.validate host s app
  | .receive m => m.validate host s
  | .acknowledge m => m.validate host s app
  | .timeout m => m.validate host s app
  | .timeoutOnClose m => m.validate host s app
  | .upgradeInit m => m.validate s app
  | .upgradeTry m => m.validate host s
  | .upgradeAck m => m.validate host s
  | .upgradeConfirm m => m.validate host s
  | .upgradeOpen m => m.validate host s
  | .upgradeCancel m => m.validate host s
  | .upgradeExpire m => m.validate host s

/-- The effect of the message, which is meant for messages that can take effect. -/
def execute (m : Message) (host : Host) : Exec Unit :=
  match m with
  | .openInit m => m.execute
  | .openTry m => m.execute
  | .openAck m => m.execute
  | .openConfirm m => m.execute
  | .closeInit m => m.execute
  | .closeConfirm m => m.execute
  | .receive m => m.execute
  | .acknowledge m => m.execute host
  | .timeout m => m.execute host
  | .timeoutOnClose m => m.execute host
  | .upgradeInit m => m.execute
  | .upgradeTry m => m.execute host
  | .upgradeAck m => m.execute host
  | .upgradeConfirm m => m.execute host
  | .upgradeOpen m => m.execute
  | .upgradeCancel m => m.execute
  | .upgradeExpire m => m.execute host

end ChannelLayer.Message
