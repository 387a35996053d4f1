import ChannelLayer.Client.Error
import ChannelLayer.Digest
import ChannelLayer.Text.Hex

/-!
# Proofs

A proof that a value is stored, or that none is, is the digest of everything it is about: a tag that tells
the two apart, the height it was taken at, the prefix of the store, the path and, for a membership proof,
the value.
-/

set_option autoImplicit false

namespace ChannelLayer.Proof

def ofBytes (bytes : Bytes) : Except CommitmentError Bytes :=
  if bytes.isEmpty then .error .emptyProof else .ok bytes

/-- The prefix under which a chain keeps its store, which is never empty. -/
def storePrefixOf (bytes : Bytes) : Except CommitmentError Bytes :=
  if bytes.isEmpty then .error .emptyPrefix else .ok bytes

def text (proof : Bytes) : String := "CommitmentProof(\"" ++ Hex.upper proof ++ "\")"

/-- Where a proof looks. -/
def location (height : Height) (storePrefix : Bytes) (path : Path) : Bytes :=
  Bytes.ofUInt64 height.revision ++ Bytes.ofUInt64 height.block ++ storePrefix ++ path.toBytes

/-- What is hashed into a proof that `value` is stored. -/
def membershipInput (height : Height) (storePrefix : Bytes) (path : Path) (value : Bytes) : Bytes :=
  1 :: location height storePrefix path ++ value

/-- What is hashed into a proof that nothing is stored. -/
def absenceInput (height : Height) (storePrefix : Bytes) (path : Path) : Bytes :=
  0 :: location height storePrefix path

variable [Digest]

def membership (height : Height) (storePrefix : Bytes) (path : Path) (value : Bytes) : Bytes :=
  digest (membershipInput height storePrefix path value)

def absence (height : Height) (storePrefix : Bytes) (path : Path) : Bytes :=
  digest (absenceInput height storePrefix path)

end ChannelLayer.Proof
