import ChannelLayer.Digest
import ChannelLayer.Packet

/-!
# Packet commitments

The sending chain commits to the deadline and the data of a packet: the digest of the time, the two
parts of the height and the digest of the data, each number as eight bytes. An absent deadline counts as
zero.
-/

set_option autoImplicit false

namespace ChannelLayer

variable [Digest]

/-- What is hashed into a packet commitment. -/
def packetCommitmentInput (data : Bytes) (height : TimeoutHeight) (time : TimeoutTimestamp) : Bytes :=
  Bytes.ofUInt64 time.toNanos ++ Bytes.ofUInt64 height.toHeight.revision
    ++ Bytes.ofUInt64 height.toHeight.block ++ digest data

def packetCommitment (data : Bytes) (height : TimeoutHeight) (time : TimeoutTimestamp) : Bytes :=
  digest (packetCommitmentInput data height time)

def Packet.commitment (p : Packet) : Bytes := packetCommitment p.data p.timeoutHeight p.timeoutTime

end ChannelLayer
