import ChannelLayer.App.Callback
import ChannelLayer.Table

/-!
# The account host

It keeps accounts for owners on the other chain. Each owner has one ordered channel per connection and
port, whose version `acct-1:owner` names it. Only the other chain opens such channels, and a closed one
may be replaced by a channel of the same owner.
-/

set_option autoImplicit false

namespace ChannelLayer

/-- The channel bound to each connection and port of the other chain. -/
structure AccountHost where
  bound : Table (ConnectionId × PortId) ChannelId := {}
  deriving DecidableEq

namespace AccountHost

def versionLabel : String := "acct-1:"

def versionOf (owner : String) : Version := ⟨versionLabel ++ owner⟩

/-- The owner that a version names; there is always one. -/
def ownerOf (version : Version) : Except ChannelError String :=
  match versionLabel.toList.isPrefixOf? version.text.toList with
  | some (c :: rest) => .ok (String.ofList (c :: rest))
  | _ => .error (.appModule ("invalid account version: " ++ version.text))

def checkOrdered (order : ChannelOrder) : Except ChannelError Unit :=
  if order = .ordered then .ok () else .error (.order (.exactly .ordered) order)

def checkOpenInit : Except ChannelError Unit :=
  .error (.appModule "account channels are opened by the controller chain")

def checkOpenTry (r : OpenRequest) : Except ChannelError String := do
  checkOrdered r.order
  checkHops r.hops
  ownerOf r.version

def bindChannel (a : AccountHost) (r : OpenRequest) : AccountHost :=
  match r.hops with
  | hop :: _ => { a with bound := a.bound.insert (hop, r.remote.port) r.id.channel }
  | [] => a

def openTry (a : AccountHost) (r : OpenRequest) : Except ChannelError (AccountHost × Extras) := do
  let owner ← checkOpenTry r
  let extras : Extras :=
    { events := [⟨"account_channel_bound", [("owner", owner), ("channel", r.id.channel.text)]⟩]
      log := ["account host: " ++ owner ++ " bound to " ++ r.id.channel.text] }
  return (a.bindChannel r, extras)

/-- A closed channel passes to a new one only within the account. -/
def checkReopen (closed : ChannelEnd) (version : Version) : Except ChannelError Unit := do
  let previous ← ownerOf closed.version
  let requested ← ownerOf version
  if previous ≠ requested then
    throw (.appModule ("invalid account address: expected " ++ previous ++ ", got " ++ requested))

def checkUpgrade (order : ChannelOrder) (version : Version) : Except ChannelError Unit := do
  checkOrdered order
  discard (ownerOf version)

end AccountHost

end ChannelLayer
