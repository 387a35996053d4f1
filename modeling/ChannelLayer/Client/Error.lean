import ChannelLayer.Height
import ChannelLayer.Identifier
import ChannelLayer.Path

/-!
# Light client errors

What goes wrong when a chain consults the light client it keeps of its counterparty.
-/

set_option autoImplicit false

namespace ChannelLayer

/-- Store prefixes and proofs are never empty. -/
inductive CommitmentError where
  | emptyPrefix
  | emptyProof
  deriving DecidableEq

def CommitmentError.message : CommitmentError → String
  | .emptyPrefix => "empty commitment prefix"
  | .emptyProof => "empty commitment proof"

inductive ClientError where
  | notFound (client : ClientId)
  | frozen (client : ClientId)
  | noConsensusState (client : ClientId) (height : Height)
  | height (e : HeightError)
  | proofTooHigh (latest proof : Height)
  | commitment (e : CommitmentError)
  | membership (path : Path)
  | nonMembership (path : Path)
  deriving DecidableEq

namespace ClientError

def message : ClientError → String
  | .notFound client => "client `" ++ client.text ++ "` not found"
  | .frozen client => "client `" ++ client.text ++ "` is frozen"
  | .noConsensusState client missing =>
    "consensus state of client `" ++ client.text ++ "` at height `" ++ missing.text ++ "` not found"
  | .height e => e.message
  | .proofTooHigh latest proof =>
    "proof height `" ++ proof.text ++ "` is beyond the latest client height `" ++ latest.text ++ "`"
  | .commitment e => "commitment error: `" ++ e.message ++ "`"
  | .membership path =>
    "failed to verify membership of `" ++ path.text
      ++ "`: `proof does not match the expected value`"
  | .nonMembership path =>
    "failed to verify non-membership of `" ++ path.text
      ++ "`: `proof does not attest an absent value`"

/-- The messages of the errors behind this one, nearest first. -/
def causes : ClientError → List String
  | .commitment e => [e.message]
  | _ => []

end ClientError

end ChannelLayer
