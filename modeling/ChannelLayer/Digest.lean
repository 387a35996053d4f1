import ChannelLayer.Bytes

/-!
# Digests

Packets, acknowledgements and proofs are committed to by a hash of their content. Everything that
commits is stated for any hash; `ChannelLayer.Digest.Sha256` is the one that chains use.
-/

set_option autoImplicit false

namespace ChannelLayer

/-- The hash that a family of chains commits with. -/
class Digest where
  digest : Bytes → Bytes

export Digest (digest)

end ChannelLayer
