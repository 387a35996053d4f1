import ChannelLayer.App.Callback
import ChannelLayer.Table

/-!
# Scripted applications

An application whose answers are written down beforehand, one for each moment at which it can be asked.
-/

set_option autoImplicit false

namespace ChannelLayer

/-- `failure` is the objection, if the application is to object; a missing version is the one it was
given. -/
structure Reply where
  failure : Option String := none
  version : Option Version := none
  extras : Extras := {}
  ack : Option String := none
  channel : Option ChannelId := none
  deriving DecidableEq

namespace Reply

def permit (r : Reply) : Except ChannelError Unit :=
  match r.failure with
  | some description => .error (.appModule description)
  | none => .ok ()

def permitSettling (r : Reply) : Except PacketError Unit :=
  match r.failure with
  | some description => .error (.appModule description)
  | none => .ok ()

/-- Any text but the empty one can be an acknowledgement. -/
def acknowledgement (r : Reply) : Acknowledgement :=
  match r.ack with
  | some text => if text.isEmpty then successAck else ⟨.ofText text⟩
  | none => successAck

end Reply

/-- The answers of an application; where none is written down it agrees. -/
structure Script where
  replies : Table Callback Reply := {}
  deriving DecidableEq

def Script.reply (s : Script) (c : Callback) : Reply := (s.replies.get? c).getD {}

end ChannelLayer
