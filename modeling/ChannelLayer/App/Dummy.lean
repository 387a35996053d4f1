import ChannelLayer.App.Callback

/-!
# The dummy application

It accepts any channel and any packet, and can be set up to turn packets down, to veto the upgrades of
the other end, or to propose a version of its own whenever it upgrades.
-/

set_option autoImplicit false

namespace ChannelLayer

structure DummyApp where
  rejectsUpgrades : Bool := false
  failsReceives : Bool := false
  upgradeVersion : Option Version := none
  deriving DecidableEq

namespace DummyApp

/-- The version of a channel for which none was asked. -/
def defaultVersion : Version := ⟨"dummy-1"⟩

def negotiate (version : Version) : Version := if version.text.isEmpty then defaultVersion else version

def proposal (a : DummyApp) (version : Version) : Version := a.upgradeVersion.getD version

def checkUpgrade (a : DummyApp) : Except ChannelError Unit :=
  if a.rejectsUpgrades then .error (.appModule "upgrade rejected by the application") else .ok ()

def receive (a : DummyApp) (p : Packet) : Extras × Acknowledgement :=
  if a.failsReceives then
    ({ log := ["dummy: rejected packet " ++ p.sequence.text] }, failureAck)
  else
    ({ events := [⟨"dummy_recv",
        [("sequence", p.sequence.text), ("channel", p.destination.channel.text)]⟩] }, successAck)

def upgradeOpen (id : EndId) (version : Version) : Extras :=
  { log := ["dummy: " ++ id.port.text ++ "/" ++ id.channel.text ++ " now runs " ++ version.text] }

end DummyApp

end ChannelLayer
