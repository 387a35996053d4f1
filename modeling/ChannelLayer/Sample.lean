import ChannelLayer.Acknowledgement
import ChannelLayer.App.Dummy
import ChannelLayer.Connection
import ChannelLayer.Upgrade

/-!
# Sample values

The names and values that two chains are set up with where nothing else is asked for.
-/

set_option autoImplicit false

namespace ChannelLayer.Sample

def port : PortId := ⟨"dummy"⟩

def client : ClientId := ⟨"07-mock-0"⟩

def connectionId : ConnectionId := .numbered 0

def channelId : ChannelId := .numbered 0

def endId : EndId := ⟨port, channelId⟩

def version : Version := DummyApp.defaultVersion

def signer : Signer := ⟨"cosmos1wxeyh7zgn4tctjzs0vtqpc6p5cxq5t2muzl7ng"⟩

/-- The first moment of 2023. -/
def startTime : Timestamp := ⟨1672531200000000000⟩

def storePrefix : Bytes := .ofText "mock"

def connection (state : ConnectionState) : ConnectionEnd :=
  ⟨state, client, ⟨client, some connectionId, storePrefix⟩⟩

def channel (state : ChannelState) (order : ChannelOrder) (upgradeSequence : UInt64) : ChannelEnd :=
  ⟨state, order, .ofEnd endId, [connectionId], version, upgradeSequence⟩

/-- A packet that times out far ahead of a new chain. -/
def packet (sequence : UInt64) : Packet :=
  ⟨⟨sequence⟩, endId, endId, .ofText "ping", .at ⟨0, 100⟩, .never⟩

def upgradeFields (order : ChannelOrder) (version : Version) : UpgradeFields :=
  ⟨order, [connectionId], version⟩

def upgradeTimeout : UpgradeTimeout := .atHeight ⟨0, 1000⟩

end ChannelLayer.Sample
