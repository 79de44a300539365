import Sluice.Balancer
import Sluice.Broadcast
import Sluice.Call
import Sluice.CommandLine.DemoFlags
import Sluice.CommandLine.Flags
import Sluice.CommandLine.Scan
import Sluice.Config.Basic
import Sluice.Config.Check
import Sluice.Config.Decode
import Sluice.Config.Layers
import Sluice.Config.Problem
import Sluice.Decimal.Shortest
import Sluice.Demo
import Sluice.Dispatching
import Sluice.Duration
import Sluice.Files
import Sluice.Health
import Sluice.Http.Headers
import Sluice.Http.Joining
import Sluice.Http.Message
import Sluice.Http.RequestId
import Sluice.Http.Uri
import Sluice.Idna.Domain
import Sluice.Idna.Label
import Sluice.Idna.Letters
import Sluice.Idna.Punycode
import Sluice.Idna.Repertoire
import Sluice.LatencyHeap
import Sluice.Main
import Sluice.Net.Ipv4
import Sluice.Net.Ipv6
import Sluice.Net.SocketAddress
import Sluice.Network
import Sluice.Pool.Basic
import Sluice.Pool.Partition
import Sluice.Pool.Rotation
import Sluice.Pool.Standings
import Sluice.Pool.Strategy
import Sluice.Pool.Traffic
import Sluice.ProbeLoops
import Sluice.Program
import Sluice.Router
import Sluice.Service
import Sluice.Session
import Sluice.Text.Canonical
import Sluice.Text.CanonicalData
import Sluice.Text.CodeTable
import Sluice.Text.Glyphs
import Sluice.Text.Quoted
import Sluice.Toml.Document
import Sluice.Toml.Lexical
import Sluice.Toml.Moment
import Sluice.Toml.Number
import Sluice.Toml.Quotation
import Sluice.Toml.Tree
import Sluice.Url.Basic
import Sluice.Url.Host
import Sluice.Url.Path
import Sluice.Url.Percent
import Sluice.Url.Reading
import Sluice.Proofs.HeapContents
import Sluice.Proofs.HeapOrder
import Sluice.Proofs.Filing
import Sluice.Proofs.Moves
import Sluice.Proofs.Membership
import Sluice.Proofs.Staleness
import Sluice.Proofs.FastestFirst
import Sluice.Proofs.Overtaking
import Sluice.Proofs.LoopMoves
import Sluice.Proofs.Restarts
import Sluice.Proofs.WakeUps
import Sluice.Proofs.Acceptance
import Sluice.Proofs.Addressing
import Sluice.Proofs.WholeSweeps
import Sluice.Proofs.Forwarding
import Sluice.Proofs.Dispatches
import Sluice.Proofs.Probing
import Sluice.Proofs.Completions
import Sluice.Proofs.Refusals
import Sluice.Proofs.Correlation
import Sluice.Proofs.Laps
import Sluice.Proofs.Signals
import Sluice.Proofs.TargetParts
import Sluice.Proofs.Verdicts
import Sluice.Proofs.HeapRuns
import Sluice.Proofs.Refiling
import Sluice.Proofs.Routing
import Sluice.Proofs.Layering
