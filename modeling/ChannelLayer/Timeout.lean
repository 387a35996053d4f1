import ChannelLayer.Client.Error
import ChannelLayer.Timestamp

/-!
# Timeouts

A deadline is a height or a time of the chain that has to act before it, or neither. What commits to a
deadline writes the absent one as zero.
-/

set_option autoImplicit false

namespace ChannelLayer

inductive TimeoutHeight where
  | never
  | at (height : Height)
  deriving DecidableEq

inductive TimeoutTimestamp where
  | never
  | at (time : Timestamp)
  deriving DecidableEq

namespace TimeoutHeight

/-- The deadline as a bare height, zero for none. -/
def toHeight : TimeoutHeight → Height
  | .never => ⟨0, 0⟩
  | .at height => height

/-- Reads a bare height; only zero in both parts stands for no deadline. -/
def ofHeight (height : Height) : Except HeightError TimeoutHeight :=
  if height = ⟨0, 0⟩ then .ok .never
  else (Height.mk? height.revision height.block).map .at

def isSet : TimeoutHeight → Bool
  | .never => false
  | .at _ => true

/-- The deadline has been reached as soon as the chain is at its height. -/
def hasExpired (t : TimeoutHeight) (now : Height) : Bool :=
  match t with
  | .never => false
  | .at height => height ≤ now

def text : TimeoutHeight → String
  | .never => "no timeout height"
  | .at height => height.text

end TimeoutHeight

namespace TimeoutTimestamp

/-- The deadline in nanoseconds, zero for none. -/
def toNanos : TimeoutTimestamp → UInt64
  | .never => 0
  | .at time => time.nanos

def ofNanos (nanos : UInt64) : TimeoutTimestamp := if nanos = 0 then .never else .at ⟨nanos⟩

def isSet : TimeoutTimestamp → Bool
  | .never => false
  | .at _ => true

def hasExpired (t : TimeoutTimestamp) (now : Timestamp) : Bool :=
  match t with
  | .never => false
  | .at time => time ≤ now

def text : TimeoutTimestamp → String
  | .never => "no timeout timestamp"
  | .at time => time.text

end TimeoutTimestamp

end ChannelLayer
