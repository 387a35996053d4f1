import ChannelLayer.Digest
import ChannelLayer.Packet

/-!
# Acknowledgements

What the receiving application answers to a packet: any bytes but the empty ones. A status tells success
from failure in a small JSON object, `{"result":"..."}` or `{"error":"..."}`; its text goes in as it is.
-/

set_option autoImplicit false

namespace ChannelLayer

structure Acknowledgement where
  bytes : Bytes
  deriving DecidableEq

namespace Acknowledgement

def ofBytes (bytes : Bytes) : Except PacketError Acknowledgement :=
  if bytes.isEmpty then .error .emptyAck else .ok ⟨bytes⟩

def commitment [Digest] (a : Acknowledgement) : Bytes := digest a.bytes

end Acknowledgement

inductive AckStatus where
  | success (text : String)
  | failure (text : String)
  deriving DecidableEq

namespace AckStatus

def checkText (text : String) : Except PacketError Unit :=
  if text.isEmpty then .error .emptyAckStatus else .ok ()

def isSuccess : AckStatus → Bool
  | .success _ => true
  | .failure _ => false

def text : AckStatus → String
  | .success text | .failure text => text

def key : AckStatus → String
  | .success _ => "result"
  | .failure _ => "error"

/-- The status as it travels. -/
def encode (s : AckStatus) : String := "\x7b\"" ++ s.key ++ "\":\"" ++ s.text ++ "\"\x7d"

def toAck (s : AckStatus) : Acknowledgement := ⟨.ofText s.encode⟩

end AckStatus

end ChannelLayer
