import ChannelLayer.Upgrade

/-!
# Crossing proposals

Both ends may propose an upgrade before they hear of the other's. Each chain then decides alone, and with
the same outcome, whose proposal goes ahead: the one with the higher sequence, then the one whose version
sorts lower, then the ordering with the lower code, then the end whose port and channel sort lower. Hops
do not count, since each chain calls the connection by a name of its own.
-/

set_option autoImplicit false

namespace ChannelLayer

/-- A proposal together with the end that made it. -/
structure CrossingProposal where
  sequence : UInt64
  fields : UpgradeFields
  id : EndId
  deriving DecidableEq

inductive Precedence where
  | ours
  | theirs
  | tie
  deriving DecidableEq

namespace CrossingProposal

/-- The proposal that goes ahead sorts first. Texts are compared by code points. -/
def compare (p q : CrossingProposal) : Ordering :=
  (Ord.compare q.sequence p.sequence).then <|
    (Ord.compare p.fields.version.text q.fields.version.text).then <|
      (Ord.compare p.fields.order.code q.fields.order.code).then <|
        (Ord.compare p.id.port.text q.id.port.text).then <|
          Ord.compare p.id.channel.text q.id.channel.text

end CrossingProposal

def upgradePrecedence (ours remote : CrossingProposal) : Precedence :=
  match ours.compare remote with
  | .lt => .ours
  | .gt => .theirs
  | .eq => .tie

end ChannelLayer
