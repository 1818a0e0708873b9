import Gemina.Lib.RingSlots
import Gemina.Lib.RingQueue
import Gemina.Lib.Mealy
import Gemina.Lib.Aead
import Gemina.Lib.BigEndian
import Gemina.Lib.Slice
import Gemina.Lib.Decimal
import Gemina.Lib.Hex
import Gemina.Lib.Counter
import Gemina.Lib.Buffer
import Gemina.Lib.Words
import Gemina.Lib.OnesComplement
import Gemina.Lib.Tlv
import Gemina.Lib.Blocks
import Gemina.Lib.Lines
import Gemina.Lib.LexOrder
import Gemina.Lib.Quoted
import Gemina.Protocol
import Gemina.Strings
import Gemina.Dedup.Replay
import Gemina.Dedup.ReplaySpec
import Gemina.Dedup.ClearRange
import Gemina.Dedup.Window
import Gemina.Dedup.WindowSpec
import Gemina.ClientCore.Data
import Gemina.ClientCore.Session
import Gemina.ClientCore.SessionPair
import Gemina.ClientCore.Handshake
import Gemina.ClientCore.Classify
import Gemina.Probe
import Gemina.ClientCore.WireFormats
import Gemina.Entitlement
import Gemina.Entitlement.Tokens
import Gemina.Entitlement.Stripe
import Gemina.Entitlement.Checkout
import Gemina.Exit.Netip
import Gemina.Exit.Allocator
import Gemina.Exit.AllocatorRuns
import Gemina.Exit.Pool
import Gemina.Exit.PathSet
import Gemina.Exit.PathSetRuns
import Gemina.Exit.Router
import Gemina.Gateway.Admission
import Gemina.Gateway.DataPlane
import Gemina.Gateway.DataGateway
import Gemina.Gateway.Receiving
import Gemina.Gateway.Freshness
import Gemina.Gateway.PrivDrop
import Gemina.Gateway.Steps
import Gemina.Gateway.Leases
import Gemina.Gateway.Lifetime
import Gemina.Gateway.Exhaustion
import Gemina.Gateway.Noninterference
import Gemina.Gateway.Delivery
import Gemina.Gateway.Forgetting
import Gemina.Gateway.Traffic
import Gemina.Gateway.Usability
import Gemina.Gateway.Egress
import Gemina.Gateway.ReturnPath
import Gemina.Rndis.Probe
import Gemina.Rndis.Packet
import Gemina.Rndis.Udp
import Gemina.Rndis.Dhcp
import Gemina.Rndis.Requests
import Gemina.Rndis.Usb
import Gemina.Rndis.Uplink
import Gemina.Rndis.Phone
import Gemina.Bridge
import Gemina.Bridge.Inbound
import Gemina.Bridge.Process
import Gemina.Bridge.Handles
import Gemina.Darwin.HardwarePorts
import Gemina.Metrics
import Gemina.Metrics.Exposition
import Gemina.Metrics.Counting
import Gemina.Gateway.Observed
import Gemina.Gateway.Turns
import Gemina.Gateway.Accounting
import Gemina.ProbeGateway.Server
import Gemina.ProbeGateway.Runs
import Gemina.ProbeGateway.Redaction
import Gemina.ProbeGateway.Exact
import Gemina.ProbeGateway.Client
import Gemina.Rndis.DualPath
import Gemina.Macos.Impact
import Gemina.Macos.PathPolicy
import Gemina.Macos.DualPathRelay
import Gemina.Concurrent.Model
import Gemina.Concurrent.NonceReuse
import Gemina.Concurrent.Completion
import Gemina.Concurrent.Leasing
import Gemina.Concurrent.KeyAgreement
import Gemina.Concurrent.HonestNetwork
import Gemina.Concurrent.Sequential
