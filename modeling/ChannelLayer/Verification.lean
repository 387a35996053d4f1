import ChannelLayer.Client
import ChannelLayer.Error
import ChannelLayer.Protobuf.Codec

/-!
# Verifying the other chain

A connection names the client that follows the other chain and the prefix of the other chain's store, so
it is what proofs are checked against.
-/

set_option autoImplicit false

namespace ChannelLayer.ConnectionEnd

/-- Proofs at `proofHeight` can be checked over this connection. -/
def checkProofHeight (c : ConnectionEnd) (clients : Clients) (proofHeight : Height) :
    Except ClientError Unit := clients.checkProofHeight c.client proofHeight

variable [Digest]

/-- The other chain stores `value` at `path`. -/
def verify (c : ConnectionEnd) (clients : Clients) (proof : Bytes) (proofHeight : Height) (path : Path)
    (value : Bytes) : Except ClientError Unit :=
  clients.verifyMembership c.client c.remote.storePrefix proof proofHeight path value

/-- The other chain stores nothing at `path`. -/
def verifyAbsence (c : ConnectionEnd) (clients : Clients) (proof : Bytes) (proofHeight : Height)
    (path : Path) : Except ClientError Unit :=
  clients.verifyAbsence c.client c.remote.storePrefix proof proofHeight path

/-- The other chain's end `id` is `expected`. -/
def verifyEnd (c : ConnectionEnd) (clients : Clients) (proof : Bytes) (proofHeight : Height) (id : EndId)
    (expected : ChannelEnd) : Except HandlerError Unit :=
  ((c.verify clients proof proofHeight (.channel id) expected.encode).mapError
    ChannelError.verification).mapError .channel

/-- The other chain keeps `expected` as the upgrade of its end `id`. -/
def verifyUpgrade (c : ConnectionEnd) (clients : Clients) (proof : Bytes) (proofHeight : Height)
    (id : EndId) (expected : Upgrade) : Except HandlerError Unit :=
  ((c.verify clients proof proofHeight (.upgrade id) expected.encode).mapError
    UpgradeError.verification).mapError .upgrade

end ChannelLayer.ConnectionEnd
