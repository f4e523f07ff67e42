import Tuic.Codec.Reader
import Tuic.Codec.Utf8
import Tuic.Transition.System
import Tuic.Codec.Pull
import Tuic.Transition.Pool
import Tuic.Transition.Account
import Tuic.Transition.Service
import Tuic.Protocol.Command
import Tuic.Protocol.RoundTrip
import Tuic.Protocol.Grammar
import Tuic.Protocol.Final
import Tuic.Protocol.Incremental
import Tuic.Cli.Getopts
import Tuic.Cli.Settings
import Tuic.Server.Udp
import Tuic.Server.UdpSessions
import Tuic.Server.UdpTable
import Tuic.Server.Authenticate
import Tuic.Server.Wakeup
import Tuic.Server.Dispatch
import Tuic.Server.Connection
import Tuic.Server.ConnectionSteps
import Tuic.Server.Frame
import Tuic.Server.Gate
import Tuic.Server.Handlers
import Tuic.Server.NoPanic
import Tuic.Server.Entries
import Tuic.Server.Barrier
import Tuic.Server.ArrivalOrder
import Tuic.Server.Payload
import Tuic.Server.Mode
import Tuic.Server.Confinement
import Tuic.Server.UdpAccounts
import Tuic.Server.Written
import Tuic.Server.Streams
import Tuic.Server.Traffic
import Tuic.Server.Tunnel
import Tuic.Server.Response
import Tuic.Server.Truncation
import Tuic.Server.Config
import Tuic.Server.Sources
import Tuic.Server.Teardown
import Tuic.Server.Delivery
import Tuic.Server.Reception
import Tuic.Client.Closed
import Tuic.Client.Register
import Tuic.Client.Manage
import Tuic.Client.Served
import Tuic.Client.Associate
import Tuic.Client.Incoming
import Tuic.Client.Connect
import Tuic.Client.Socks5
import Tuic.Client.Associations
import Tuic.Client.Application
import Tuic.Client.Applications
import Tuic.Client.Buffers
import Tuic.Client.Lifetime
import Tuic.Client.Rest
import Tuic.Client.Certificates
import Tuic.Client.Config
import Tuic.Client.Startup
import Tuic.Client.Heartbeat
import Tuic.Client.Wakers
import Tuic.Cli.Repeated
import Tuic.EndToEnd.UdpFrames
import Tuic.EndToEnd.Duplex
import Tuic.EndToEnd.Feed
import Tuic.EndToEnd.Link
import Tuic.EndToEnd.Dissociate
import Tuic.EndToEnd.Replies
import Tuic.EndToEnd.Conform
import Tuic.EndToEnd.Isolation
import Tuic.EndToEnd.Tunnel
import Tuic.EndToEnd.Pipe
import Tuic.EndToEnd.Delivery
import Tuic.EndToEnd.Answers
import Tuic.EndToEnd.Deployment
import Tuic.EndToEnd.Relayed
import Tuic.EndToEnd.Service
import Tuic.EndToEnd.Started
