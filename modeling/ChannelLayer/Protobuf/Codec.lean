import ChannelLayer.Protobuf.Shape
import ChannelLayer.Upgrade

/-!
# Encoding what chains commit to

Heights, counterparties, channel ends and upgrades are committed to in their wire form. `encode` writes
it; `decode` reads any wire form of a value, and tells bytes that are no message at all from a message
that breaks a rule of the value.
-/

set_option autoImplicit false

namespace ChannelLayer

inductive DecodeError (ε : Type) where
  | malformed
  | invalid (e : ε)
  deriving DecidableEq

namespace Protobuf

/-- Reads the bytes of a message, then its shape, then its value. -/
def decodeWith {σ α ε : Type} (shape : List Field → Option σ) (value : σ → Except ε α) (bs : Bytes) :
    Except (DecodeError ε) α :=
  match (readFields nestingLimit bs).bind shape with
  | none => .error .malformed
  | some s =>
    match value s with
    | .ok v => .ok v
    | .error e => .error (.invalid e)

end Protobuf

open Protobuf

namespace Height

def toShape (h : Height) : HeightShape := ⟨h.revision, h.block⟩

def ofShape (s : HeightShape) : Except HeightError Height := mk? s.revision s.block

def encode (h : Height) : Bytes := h.toShape.write

def decode (bs : Bytes) : Except (DecodeError HeightError) Height :=
  decodeWith HeightShape.ofFields ofShape bs

end Height

namespace TimeoutHeight

def ofShape (s : HeightShape) : Except HeightError TimeoutHeight := ofHeight ⟨s.revision, s.block⟩

end TimeoutHeight

namespace Counterparty

def toShape (c : Counterparty) : CounterpartyShape :=
  ⟨c.port.text, match c.channel with | some channel => channel.text | none => ""⟩

/-- An empty channel identifier stands for an unknown one; the channel is looked at before the port. -/
def ofShape (s : CounterpartyShape) : Except ChannelError Counterparty := do
  let channel ← if s.channel.isEmpty then pure none
    else some <$> (ChannelId.ofText s.channel).mapError .identifier
  return ⟨← (PortId.ofText s.port).mapError .identifier, channel⟩

def encode (c : Counterparty) : Bytes := c.toShape.write

def decode (bs : Bytes) : Except (DecodeError ChannelError) Counterparty :=
  decodeWith CounterpartyShape.ofFields ofShape bs

end Counterparty

namespace ChannelEnd

def toShape (c : ChannelEnd) : ChannelShape :=
  { state := c.state.code
    order := c.order.code
    counterparty := some c.remote.toShape
    hops := c.hops.map ConnectionId.text
    version := c.version.text
    upgradeSequence := c.upgradeSequence }

def ofShape (s : ChannelShape) : Except ChannelError ChannelEnd := do
  let state ← ChannelState.ofCode s.state
  let order ← ChannelOrder.ofCode s.order
  let some counterparty := s.counterparty | throw .missingCounterparty
  let remote ← Counterparty.ofShape counterparty
  let hops ← (s.hops.mapM ConnectionId.ofText).mapError .identifier
  ChannelEnd.checked ⟨state, order, remote, hops, ⟨s.version⟩, s.upgradeSequence⟩

def encode (c : ChannelEnd) : Bytes := c.toShape.write

def decode (bs : Bytes) : Except (DecodeError ChannelError) ChannelEnd :=
  decodeWith (ChannelShape.ofFields nestingLimit) ofShape bs

end ChannelEnd

namespace UpgradeFields

def toShape (f : UpgradeFields) : FieldsShape :=
  ⟨f.order.code, f.hops.map ConnectionId.text, f.version.text⟩

def ofShape (s : FieldsShape) : Except UpgradeError UpgradeFields := do
  let order ← (ChannelOrder.ofCode s.order).mapError .channel
  let hops ← (s.hops.mapM ConnectionId.ofText).mapError fun e => .invalidFields (.hopText e)
  return ⟨order, hops, ⟨s.version⟩⟩

def encode (f : UpgradeFields) : Bytes := f.toShape.write

def decode (bs : Bytes) : Except (DecodeError UpgradeError) UpgradeFields :=
  decodeWith FieldsShape.ofFields ofShape bs

end UpgradeFields

namespace UpgradeTimeout

def toShape (t : UpgradeTimeout) : TimeoutShape := ⟨some t.height.toHeight.toShape, t.time.toNanos⟩

def ofShape (s : TimeoutShape) : Except UpgradeError UpgradeTimeout := do
  let height ← match s.height with
    | none => pure TimeoutHeight.never
    | some height => (TimeoutHeight.ofShape height).mapError fun e =>
        .invalidFields (.timeoutHeight (.timeoutHeight (.height e)))
  ofBounds height (.ofNanos s.time)

def encode (t : UpgradeTimeout) : Bytes := t.toShape.write

def decode (bs : Bytes) : Except (DecodeError UpgradeError) UpgradeTimeout :=
  decodeWith (TimeoutShape.ofFields nestingLimit) ofShape bs

end UpgradeTimeout

namespace Upgrade

def toShape (u : Upgrade) : UpgradeShape :=
  ⟨some u.fields.toShape, some u.timeout.toShape, u.nextSend.number⟩

def ofShape (s : UpgradeShape) : Except UpgradeError Upgrade := do
  let some fields := s.fields | throw .missingFields
  let fields ← UpgradeFields.ofShape fields
  let some timeout := s.timeout | throw .invalidTimeout
  return ⟨fields, ← UpgradeTimeout.ofShape timeout, ⟨s.nextSend⟩⟩

def encode (u : Upgrade) : Bytes := u.toShape.write

def decode (bs : Bytes) : Except (DecodeError UpgradeError) Upgrade :=
  decodeWith (UpgradeShape.ofFields nestingLimit) ofShape bs

end Upgrade

namespace ErrorReceipt

def toShape (r : ErrorReceipt) : ReceiptShape := ⟨r.sequence, r.message⟩

def ofShape (s : ReceiptShape) : Except UpgradeError ErrorReceipt := .ok ⟨s.sequence, s.message⟩

def encode (r : ErrorReceipt) : Bytes := r.toShape.write

def decode (bs : Bytes) : Except (DecodeError UpgradeError) ErrorReceipt :=
  decodeWith ReceiptShape.ofFields ofShape bs

end ErrorReceipt

end ChannelLayer
