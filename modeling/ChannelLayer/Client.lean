import ChannelLayer.Client.Error
import ChannelLayer.Proof
import ChannelLayer.Table
import ChannelLayer.Timestamp

/-!
# Light clients

A chain follows another one through a light client: a record of the block times it has verified, by
height. Proofs are checked against heights that the client has verified, and a frozen client, which saw
its chain misbehave, answers nothing.
-/

set_option autoImplicit false

namespace ChannelLayer

structure Client where
  consensus : Table Height Timestamp := {}
  frozen : Bool := false
  deriving DecidableEq

namespace Client

def highest : List Height → Option Height
  | [] => none
  | h :: rest =>
    match highest rest with
    | some top => if top < h then some h else some top
    | none => some h

def latest? (c : Client) : Option Height := highest c.consensus.keys

end Client

abbrev Clients := Table ClientId Client

namespace Clients

/-- Records a verified block, of a client that may be new. -/
def update (cs : Clients) (id : ClientId) (height : Height) (time : Timestamp) : Clients :=
  let c := (cs.get? id).getD {}
  cs.insert id { c with consensus := c.consensus.insert height time }

def freeze (cs : Clients) (id : ClientId) : Clients :=
  match cs.get? id with
  | some c => cs.insert id { c with frozen := true }
  | none => cs

def active (cs : Clients) (id : ClientId) : Except ClientError Client :=
  match cs.get? id with
  | some c => if c.frozen then .error (.frozen id) else .ok c
  | none => .error (.notFound id)

def latestHeight (cs : Clients) (id : ClientId) : Except ClientError Height := do
  match (← cs.active id).latest? with
  | some height => return height
  | none => throw (.notFound id)

def consensusTime (cs : Clients) (id : ClientId) (height : Height) : Except ClientError Timestamp := do
  match (← cs.active id).consensus.get? height with
  | some time => return time
  | none => throw (.noConsensusState id height)

/-- Proofs are not taken above what the client has verified. -/
def checkProofHeight (cs : Clients) (id : ClientId) (proofHeight : Height) :
    Except ClientError Unit := do
  let latest ← cs.latestHeight id
  if latest < proofHeight then throw (.proofTooHigh latest proofHeight)

/-- The client has verified this very height. -/
def checkVerified (cs : Clients) (id : ClientId) (height : Height) : Except ClientError Unit := do
  if ((← cs.active id).consensus.get? height).isNone then throw (.noConsensusState id height)

variable [Digest]

def verifyMembership (cs : Clients) (id : ClientId) (storePrefix proof : Bytes) (height : Height)
    (path : Path) (value : Bytes) : Except ClientError Unit := do
  cs.checkVerified id height
  if proof ≠ Proof.membership height storePrefix path value then throw (.membership path)

def verifyAbsence (cs : Clients) (id : ClientId) (storePrefix proof : Bytes) (height : Height)
    (path : Path) : Except ClientError Unit := do
  cs.checkVerified id height
  if proof ≠ Proof.absence height storePrefix path then throw (.nonMembership path)

end Clients

end ChannelLayer
