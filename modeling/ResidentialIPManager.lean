import ResidentialIPManager.Bytes.Stream
import ResidentialIPManager.Bytes.Wire
import ResidentialIPManager.Sequences.Batches
import ResidentialIPManager.Sequences.SwapRemove
import ResidentialIPManager.Sorting.Comparator
import ResidentialIPManager.Sorting.Median
import ResidentialIPManager.Sorting.Sorter
import ResidentialIPManager.Transition.Calls
import ResidentialIPManager.Transition.History
import ResidentialIPManager.Transition.Observer
import ResidentialIPManager.Transition.Pool
import ResidentialIPManager.Transition.Runs
import ResidentialIPManager.Transition.Workers
import ResidentialIPManager.Text.Address
import ResidentialIPManager.Text.AddressText
import ResidentialIPManager.Text.Base64
import ResidentialIPManager.Text.CSV
import ResidentialIPManager.Text.Decimal
import ResidentialIPManager.Text.Encoding
import ResidentialIPManager.Text.Folding
import ResidentialIPManager.Text.HostPort
import ResidentialIPManager.Text.Paths
import ResidentialIPManager.Text.QuotedScalar
import ResidentialIPManager.Text.Rune
import ResidentialIPManager.Text.Strings
import ResidentialIPManager.Text.YAML
import ResidentialIPManager.Domain.Config
import ResidentialIPManager.Domain.Models
import ResidentialIPManager.Domain.Settings
import ResidentialIPManager.Storage.Files
import ResidentialIPManager.Storage.State
import ResidentialIPManager.Classify.Batches
import ResidentialIPManager.Classify.Residential
import ResidentialIPManager.Classify.Scores
import ResidentialIPManager.Probe.Consistency
import ResidentialIPManager.Probe.Tcp
import ResidentialIPManager.Probe.Workers
import ResidentialIPManager.Source.BadLines
import ResidentialIPManager.Source.Endpoints
import ResidentialIPManager.Source.Payload
import ResidentialIPManager.Source.Profiles
import ResidentialIPManager.Source.VPNGate
import ResidentialIPManager.Verify.Exit
import ResidentialIPManager.Verify.UnknownCountry
import ResidentialIPManager.Tunnel.Bridge
import ResidentialIPManager.Tunnel.Callers
import ResidentialIPManager.Tunnel.Certificates
import ResidentialIPManager.Tunnel.Connections
import ResidentialIPManager.Tunnel.Controller
import ResidentialIPManager.Tunnel.Endpoint
import ResidentialIPManager.Tunnel.InlineBlocks
import ResidentialIPManager.Tunnel.InlineReader
import ResidentialIPManager.Tunnel.OptionEffects
import ResidentialIPManager.Tunnel.Ownership
import ResidentialIPManager.Tunnel.ProfileFiles
import ResidentialIPManager.Tunnel.ProfileReader
import ResidentialIPManager.Tunnel.Resanitizing
import ResidentialIPManager.Tunnel.SafeProfile
import ResidentialIPManager.Tunnel.Sanitizer
import ResidentialIPManager.ProxyCore.Xray
import ResidentialIPManager.Subscription.Clash
import ResidentialIPManager.Web.Agreement
import ResidentialIPManager.Web.Armed
import ResidentialIPManager.Web.AttemptBudget
import ResidentialIPManager.Web.Authentication
import ResidentialIPManager.Web.Closing
import ResidentialIPManager.Web.CooldownCause
import ResidentialIPManager.Web.CooldownKept
import ResidentialIPManager.Web.CooldownStatus
import ResidentialIPManager.Web.Durations
import ResidentialIPManager.Web.Failover
import ResidentialIPManager.Web.FailureEffect
import ResidentialIPManager.Web.Finality
import ResidentialIPManager.Web.Handshakes
import ResidentialIPManager.Web.HealthMonitor
import ResidentialIPManager.Web.MeasuredFirst
import ResidentialIPManager.Web.Monitor
import ResidentialIPManager.Web.Operations
import ResidentialIPManager.Web.Persistence
import ResidentialIPManager.Web.Ranking
import ResidentialIPManager.Web.Rejections
import ResidentialIPManager.Web.Requested
import ResidentialIPManager.Web.Resolvable
import ResidentialIPManager.Web.Restart
import ResidentialIPManager.Web.Sections
import ResidentialIPManager.Web.Sessions
import ResidentialIPManager.Web.Snapshots
import ResidentialIPManager.Web.StaleResults
import ResidentialIPManager.Web.Steps
import ResidentialIPManager.Web.Threads
import ResidentialIPManager.Web.Verified
import ResidentialIPManager.Web.World
import ResidentialIPManager.Command.Diagnose
import ResidentialIPManager.MiniVPN.Packet
import ResidentialIPManager.MiniVPN.Framing
import ResidentialIPManager.MiniVPN.Session
import ResidentialIPManager.MiniVPN.Receiver
import ResidentialIPManager.MiniVPN.Sender
import ResidentialIPManager.MiniVPN.Node
import ResidentialIPManager.MiniVPN.Exchange
import ResidentialIPManager.MiniVPN.Duplex
import ResidentialIPManager.MiniVPN.DataChannel
import ResidentialIPManager.MiniVPN.DataFlow
import ResidentialIPManager.MiniVPN.DataStreams
import ResidentialIPManager.MiniVPN.DataFaults
import ResidentialIPManager.MiniVPN.ControlMessage
import ResidentialIPManager.MiniVPN.Negotiation
import ResidentialIPManager.MiniVPN.NegotiationRuns
import ResidentialIPManager.MiniVPN.Shutdown
import ResidentialIPManager.MiniVPN.KeyDerivation
import ResidentialIPManager.MiniVPN.Device
