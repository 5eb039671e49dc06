import Witan.Api.Completions
import Witan.Api.Pinned
import Witan.Api.Polling
import Witan.Api.Restart
import Witan.Api.Summaries
import Witan.Envelope.Restamp
import Witan.Gossip.Acceptance
import Witan.Gossip.AckCounts
import Witan.Gossip.Crossing
import Witan.Gossip.DedupWindow
import Witan.Gossip.Dispatch
import Witan.Gossip.Expiry
import Witan.Gossip.Publishing
import Witan.Gossip.Rotating
import Witan.Handshake.Authentication
import Witan.Handshake.Queries
import Witan.Handshake.Rejection
import Witan.Handshake.Routing
import Witan.Handshake.SessionId
import Witan.Quorum.Tolerance
import Witan.Rotation.BuildVerify
import Witan.Rotation.Convergence
import Witan.Rotation.ForkReport
import Witan.Rotation.Successor
import Witan.Signing.Honest
import Witan.Memory.Linear
import Witan.Error.Display
import Witan.Api.Answers
import Witan.WasiExports
import Witan.WasiExports.Replies
import Witan.WasiExports.Refinement
import Witan.WasiExports.Lasting
import Witan.WasiExports.Ownership
import Witan.Text.JsonString
import Witan.WasiExports.Reports
import Witan.Component
import Witan.Gossip.Statistics
import Witan.Api.Lifecycle
import Witan.WasmtimeTest
import Witan.WasmtimeTest.Mesh
import Witan.Api.Acceptance
import Witan.Api.Custody
import Witan.Api.Sessions
import Witan.Api.Separation
import Witan.Api.Turns
