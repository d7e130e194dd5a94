import SnapshotFeed.Main
import SnapshotFeed.Proofs.Backoff
import SnapshotFeed.Proofs.Backoff.Schedule
import SnapshotFeed.Proofs.Calls
import SnapshotFeed.Proofs.Endpoint
import SnapshotFeed.Proofs.Endpoint.File
import SnapshotFeed.Proofs.Endpoint.Front
import SnapshotFeed.Proofs.Endpoint.Path
import SnapshotFeed.Proofs.Frame
import SnapshotFeed.Proofs.Frame.Literal
import SnapshotFeed.Proofs.Frame.Meaning
import SnapshotFeed.Proofs.Frame.Shape
import SnapshotFeed.Proofs.Http.Prefix
import SnapshotFeed.Proofs.Http.Protocol
import SnapshotFeed.Proofs.Http.RoundTrip
import SnapshotFeed.Proofs.Http.Segmentation
import SnapshotFeed.Proofs.Http.Stream
import SnapshotFeed.Proofs.Json.Exact
import SnapshotFeed.Proofs.Json.Grammar
import SnapshotFeed.Proofs.Json.Prefix
import SnapshotFeed.Proofs.Json.Reader
import SnapshotFeed.Proofs.Json.Text
import SnapshotFeed.Proofs.Json.Writer
import SnapshotFeed.Proofs.Lifecycle
import SnapshotFeed.Proofs.Lines.Buffer
import SnapshotFeed.Proofs.Lines.Moments
import SnapshotFeed.Proofs.Lines.Split
import SnapshotFeed.Proofs.Queue.Channel
import SnapshotFeed.Proofs.Queue.Delivery
import SnapshotFeed.Proofs.Queue.Session
import SnapshotFeed.Proofs.Reconnect.Account
import SnapshotFeed.Proofs.Reconnect.Causes
import SnapshotFeed.Proofs.Reconnect.Course
import SnapshotFeed.Proofs.Reconnect.Crash
import SnapshotFeed.Proofs.Reconnect.Deeds
import SnapshotFeed.Proofs.Reconnect.History
import SnapshotFeed.Proofs.Reconnect.Hosts
import SnapshotFeed.Proofs.Reconnect.Ledger
import SnapshotFeed.Proofs.Reconnect.LoopAndSwitch
import SnapshotFeed.Proofs.Reconnect.Pace
import SnapshotFeed.Proofs.Reconnect.Projection
import SnapshotFeed.Proofs.Reconnect.Reaction
import SnapshotFeed.Proofs.Reconnect.Reference
import SnapshotFeed.Proofs.Reconnect.Requests
import SnapshotFeed.Proofs.Reconnect.Sessions
import SnapshotFeed.Proofs.Reconnect.Setting
import SnapshotFeed.Proofs.Reconnect.Supply
import SnapshotFeed.Proofs.Reconnect.Transparency
import SnapshotFeed.Proofs.Reconnect.Truncation
import SnapshotFeed.Proofs.Steps
import SnapshotFeed.Proofs.Url.Authority
import SnapshotFeed.Proofs.Url.Joining
import SnapshotFeed.Proofs.Url.Name
import SnapshotFeed.Proofs.Url.Path
import SnapshotFeed.Proofs.Wakeup
