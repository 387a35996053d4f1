import ChannelLayer.Protobuf.Wire

/-!
# Message shapes

The messages that chains commit to, as they stand on the wire: texts are not yet identifiers, and
orderings and states are still numbers. Numbers of 32 bits take the low half of what was written.
-/

set_option autoImplicit false

namespace ChannelLayer.Protobuf

structure HeightShape where
  revision : UInt64
  block : UInt64
  deriving DecidableEq

structure CounterpartyShape where
  port : String
  channel : String
  deriving DecidableEq

structure ChannelShape where
  state : Int
  order : Int
  counterparty : Option CounterpartyShape
  hops : List String
  version : String
  upgradeSequence : UInt64
  deriving DecidableEq

structure FieldsShape where
  order : Int
  hops : List String
  version : String
  deriving DecidableEq

structure TimeoutShape where
  height : Option HeightShape
  time : UInt64
  deriving DecidableEq

structure UpgradeShape where
  fields : Option FieldsShape
  timeout : Option TimeoutShape
  nextSend : UInt64
  deriving DecidableEq

structure ReceiptShape where
  sequence : UInt64
  message : String
  deriving DecidableEq

/-- The low half of `n` as a signed number. -/
def signedLow (n : UInt64) : Int := n.toUInt32.toInt32.toInt

/-! ## Reading -/

def HeightShape.ofFields (fs : List Field) : Option HeightShape := do
  return { revision := ← numberField 1 fs, block := ← numberField 2 fs }

def CounterpartyShape.ofFields (fs : List Field) : Option CounterpartyShape := do
  return { port := ← textField 1 fs, channel := ← textField 2 fs }

def ChannelShape.ofFields (room : Nat) (fs : List Field) : Option ChannelShape := do
  return {
    state := signedLow (← numberField 1 fs)
    order := signedLow (← numberField 2 fs)
    counterparty := ← (← messageField (room - 1) 3 fs).mapM CounterpartyShape.ofFields
    hops := ← textsField 4 fs
    version := ← textField 5 fs
    upgradeSequence := ← numberField 6 fs }

def FieldsShape.ofFields (fs : List Field) : Option FieldsShape := do
  return {
    order := signedLow (← numberField 1 fs)
    hops := ← textsField 2 fs
    version := ← textField 3 fs }

def TimeoutShape.ofFields (room : Nat) (fs : List Field) : Option TimeoutShape := do
  return {
    height := ← (← messageField (room - 1) 1 fs).mapM HeightShape.ofFields
    time := ← numberField 2 fs }

def UpgradeShape.ofFields (room : Nat) (fs : List Field) : Option UpgradeShape := do
  return {
    fields := ← (← messageField (room - 1) 1 fs).mapM FieldsShape.ofFields
    timeout := ← (← messageField (room - 1) 2 fs).mapM (TimeoutShape.ofFields (room - 1))
    nextSend := ← numberField 3 fs }

def ReceiptShape.ofFields (fs : List Field) : Option ReceiptShape := do
  return { sequence := ← numberField 1 fs, message := ← textField 2 fs }

/-! ## Writing -/

def HeightShape.write (s : HeightShape) : Bytes :=
  writeNumber 1 s.revision ++ writeNumber 2 s.block

def CounterpartyShape.write (s : CounterpartyShape) : Bytes :=
  writeText 1 s.port ++ writeText 2 s.channel

/-- An embedded message is written whenever it is present, even if it is empty. -/
def writeMessage (number : Nat) : Option Bytes → Bytes
  | none => []
  | some bs => writeBytes number bs

/-- States and orderings are small and never negative when they are written. -/
def writeCode (number : Nat) (code : Int) : Bytes := writeNumber number (UInt64.ofNat code.toNat)

def ChannelShape.write (s : ChannelShape) : Bytes :=
  writeCode 1 s.state ++ writeCode 2 s.order
    ++ writeMessage 3 (s.counterparty.map CounterpartyShape.write) ++ writeTexts 4 s.hops
    ++ writeText 5 s.version ++ writeNumber 6 s.upgradeSequence

def FieldsShape.write (s : FieldsShape) : Bytes :=
  writeCode 1 s.order ++ writeTexts 2 s.hops ++ writeText 3 s.version

def TimeoutShape.write (s : TimeoutShape) : Bytes :=
  writeMessage 1 (s.height.map HeightShape.write) ++ writeNumber 2 s.time

def UpgradeShape.write (s : UpgradeShape) : Bytes :=
  writeMessage 1 (s.fields.map FieldsShape.write) ++ writeMessage 2 (s.timeout.map TimeoutShape.write)
    ++ writeNumber 3 s.nextSend

def ReceiptShape.write (s : ReceiptShape) : Bytes :=
  writeNumber 1 s.sequence ++ writeText 2 s.message

end ChannelLayer.Protobuf
