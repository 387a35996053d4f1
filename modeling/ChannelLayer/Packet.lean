import ChannelLayer.Channel
import ChannelLayer.Text.Quoted
import ChannelLayer.Timeout

/-!
# Packets

A packet travels from a channel end of one chain to the end it is joined to on the other. It carries its
sequence, bytes that only the applications understand, and the deadline before which the receiving chain
has to take it.
-/

set_option autoImplicit false

namespace ChannelLayer

/-- What a chain remembers of a packet it received on an unordered channel. -/
inductive Receipt where
  | received
  | none
  deriving DecidableEq

structure Packet where
  sequence : Sequence
  source : EndId
  destination : EndId
  data : Bytes
  timeoutHeight : TimeoutHeight
  timeoutTime : TimeoutTimestamp
  deriving DecidableEq

inductive PacketError where
  | appModule (description : String)
  | channel (e : ChannelError)
  | sequenceMismatch (expected actual : Sequence)
  | noCommitment (sequence : Sequence)
  | incorrectCommitment (sequence : Sequence)
  | timeoutElapsed (sequence : Sequence) (height : Height) (time : Timestamp)
  | timeoutNotReached (timeoutHeight : TimeoutHeight) (height : Height)
      (timeoutTime : TimeoutTimestamp) (time : Timestamp)
  | sentAfterUpgrade (sequence nextSend : Sequence)
  | alreadyReceived (sequence nextReceive : Sequence)
  | verification (sequence : Sequence) (e : ClientError)
  | missingTimeout
  | timeoutHeight (e : ClientError)
  | identifier (e : IdentifierError)
  | emptyAck
  | emptyAckStatus
  | zeroSequence
  deriving DecidableEq

namespace PacketError

def message : PacketError → String
  | .appModule description => "application module error: `" ++ description ++ "`"
  | .channel e => "channel error: `" ++ e.message ++ "`"
  | .sequenceMismatch expected actual =>
    "mismatched packet sequences: expected `" ++ expected.text ++ "`, actual `" ++ actual.text ++ "`"
  | .noCommitment sequence => "packet commitment for sequence `" ++ sequence.text ++ "` not found"
  | .incorrectCommitment sequence =>
    "commitment for packet `" ++ sequence.text ++ "` does not match the packet"
  | .timeoutElapsed sequence height time =>
    "packet `" ++ sequence.text ++ "` timed out: chain height `" ++ height.text
      ++ "`, chain timestamp `" ++ time.text ++ "`"
  | .timeoutNotReached deadlineHeight height deadlineTime time =>
    "packet timeout height `" ++ deadlineHeight.text ++ "` > chain height `" ++ height.text
      ++ "` and timeout timestamp `" ++ deadlineTime.text ++ "` > chain timestamp `" ++ time.text ++ "`"
  | .sentAfterUpgrade sequence nextSend =>
    "packet `" ++ sequence.text ++ "` was sent after the counterparty stopped sending at `"
      ++ nextSend.text ++ "`"
  | .alreadyReceived sequence nextReceive =>
    "packet `" ++ sequence.text
      ++ "` has already been relayed past the counterparty's next receive sequence `"
      ++ nextReceive.text ++ "`"
  | .verification sequence e =>
    "failed packet verification for packet with sequence `" ++ sequence.text ++ "`: `" ++ e.message
      ++ "`"
  | .missingTimeout => "missing timeout"
  | .timeoutHeight e => "invalid timeout height: `" ++ e.message ++ "`"
  | .identifier e => "invalid identifier: `" ++ e.message ++ "`"
  | .emptyAck => "empty acknowledgement not allowed"
  | .emptyAckStatus => "empty acknowledgement status not allowed"
  | .zeroSequence => "packet sequence cannot be 0"

/-- The messages of the errors behind this one, nearest first. -/
def causes : PacketError → List String
  | .channel e => e.message :: e.causes
  | .identifier e => [e.message]
  | .timeoutHeight e | .verification _ e => e.message :: e.causes
  | _ => []

end PacketError

namespace Packet

/-- Too late to be received by a chain at `height` and `time`. -/
def timedOut (p : Packet) (height : Height) (time : Timestamp) : Bool :=
  p.timeoutHeight.hasExpired height || p.timeoutTime.hasExpired time

/-- What every packet satisfies, whatever channel it travels on. -/
def check (p : Packet) : Except PacketError Unit :=
  if p.sequence = .zero then .error .zeroSequence
  else if !p.timeoutHeight.isSet && !p.timeoutTime.isSet then .error .missingTimeout
  else .ok ()

def text (p : Packet) : String :=
  "seq:" ++ p.sequence.text ++ ", path:" ++ p.source.channel.text ++ "/" ++ p.source.port.text ++ "->"
    ++ p.destination.channel.text ++ "/" ++ p.destination.port.text ++ ", toh:"
    ++ p.timeoutHeight.text ++ ", tos:" ++ p.timeoutTime.text

/-- The packet field by field. -/
def labelled (p : Packet) : String :=
  "Packet \x7b sequence: Sequence(" ++ p.sequence.text
    ++ "), source_port: PortId(" ++ Quoted.text p.source.port.text
    ++ "), source_channel: ChannelId(" ++ Quoted.text p.source.channel.text
    ++ "), destination_port: PortId(" ++ Quoted.text p.destination.port.text
    ++ "), destination_channel: ChannelId(" ++ Quoted.text p.destination.channel.text
    ++ "), data: " ++ bracketed (p.data.map fun b => Nat.repr b.toNat)
    ++ ", timeout_height: "
    ++ (match p.timeoutHeight with
        | .never => "Never"
        | .at height => "At(" ++ height.labelled ++ ")")
    ++ ", timeout_timestamp: "
    ++ (match p.timeoutTime with
        | .never => "Never"
        | .at time => "At(Timestamp \x7b nanos: " ++ decimal time.nanos ++ " \x7d)")
    ++ " \x7d"

end Packet

end ChannelLayer
