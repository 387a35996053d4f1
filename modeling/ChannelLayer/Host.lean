import ChannelLayer.Client

/-!
# The host of a chain

What a chain knows without its store: its own height and clock, the prefix under which others find its
store, and the light clients through which it follows other chains. Blocks move the height and the clock.
-/

set_option autoImplicit false

namespace ChannelLayer

structure Host where
  height : Height := ⟨0, 5⟩
  time : Timestamp := ⟨1672531200000000000⟩
  blockTime : UInt64 := 3000000000
  storePrefix : Bytes := .ofText "mock"
  clients : Clients := {}
  deriving DecidableEq

namespace Host

/-- The clock moves by `duration` nanoseconds, within the same block. -/
def advanceTime (h : Host) (duration : UInt64) : Host := { h with time := h.time.advance duration }

def advanceBlock (h : Host) : Host :=
  { h with height := h.height.next, time := h.time.advance h.blockTime }

def advanceBlocks (h : Host) : Nat → Host
  | 0 => h
  | n + 1 => h.advanceBlock.advanceBlocks n

end Host

end ChannelLayer
