import ChannelLayer.Proofs.Cancellation
import ChannelLayer.Proofs.Trial
import ChannelLayer.Proofs.Attempts
import ChannelLayer.Proofs.Outcome
import ChannelLayer.Proofs.History
import ChannelLayer.Proofs.Phase
import ChannelLayer.Proofs.Encoding
import ChannelLayer.Proofs.Expiry
import ChannelLayer.Proofs.Run
import ChannelLayer.Proofs.Applications
import ChannelLayer.Proofs.UpgradeEffects
import ChannelLayer.Proofs.Orders
import ChannelLayer.Proofs.Effects
import ChannelLayer.Proofs.Writes
import ChannelLayer.Proofs.Turn
import ChannelLayer.Proofs.Conclusion
import ChannelLayer.Proofs.Acceptance
import ChannelLayer.Proofs.Evidence
import ChannelLayer.Proofs.Checks
import ChannelLayer.Proofs.Execution
import ChannelLayer.Acknowledgement.Json
import ChannelLayer.App
import ChannelLayer.Chain.Listing
import ChannelLayer.Chain.Setup
import ChannelLayer.Digest.Sha256
import ChannelLayer.Event
import ChannelLayer.Json.Event
import ChannelLayer.Json.Message
import ChannelLayer.Json.Setup
import ChannelLayer.Protobuf.Codec
import ChannelLayer.Query
import ChannelLayer.Relay.Handshake
import ChannelLayer.Relay.Packet
import ChannelLayer.Relay.Upgrade
import ChannelLayer.Sample
import ChannelLayer.Proofs.Reception
import ChannelLayer.Proofs.Lapse
import ChannelLayer.Proofs.Course
import ChannelLayer.Proofs.Keeping
import ChannelLayer.Proofs.Posting
import ChannelLayer.Proofs.Pairing
import ChannelLayer.Proofs.Crossing
import ChannelLayer.Proofs.Counters
import ChannelLayer.Proofs.Hops
import ChannelLayer.Proofs.Completion
import ChannelLayer.Proofs.LifeCycle
import ChannelLayer.Proofs.Abandonment
import ChannelLayer.Proofs.Numbering
import ChannelLayer.Proofs.Integrity
import ChannelLayer.Proofs.Intake
import ChannelLayer.Proofs.Likeness
import ChannelLayer.Proofs.Separation
import ChannelLayer.Proofs.RoundTrip
import ChannelLayer.Proofs.Ownership
import ChannelLayer.Proofs.Occupancy
import ChannelLayer.Proofs.Handles
import ChannelLayer.Proofs.Spelling
import ChannelLayer.Proofs.Status
import ChannelLayer.Proofs.Paths
import ChannelLayer.Proofs.Binding
import ChannelLayer.Proofs.Queries
import ChannelLayer.Proofs.Precedence
import ChannelLayer.Proofs.Blocks
import ChannelLayer.Proofs.Silence
import ChannelLayer.Proofs.SingleUse
import ChannelLayer.Proofs.WaysOut
