import N0wss.Core.Machine
import N0wss.Core.SlotStore
import N0wss.Core.Text
import N0wss.Session.Registry
import N0wss.Session.Manager
import N0wss.Session.Refinement
import N0wss.Core.Bytes
import N0wss.Core.Utf8
import N0wss.Net.Addr
import N0wss.Socks5.Reply
import N0wss.Socks5.Request
import N0wss.Bridge.ProcessIntent
import N0wss.Session.Interleaving
import N0wss.Session.Admission
import N0wss.Session.Finality
import N0wss.Gateway.Requests
import N0wss.Gateway.Auth
import N0wss.Gateway.Handshake
import N0wss.Datagram.Contract
import N0wss.Datagram.Frame
import N0wss.Socks5.UdpAssociate
import N0wss.Session.UdpRegistry
import N0wss.Bridge.UdpRelay
import N0wss.Session.DatagramManager
import N0wss.Gateway.DatagramPath
import N0wss.Gateway.ReplyPath
import N0wss.Socks5.RelayLoop
import N0wss.Socks5.UdpSession
import N0wss.Socks5.UdpSystem
import N0wss.Net.Ipv6
import N0wss.Socks5.SourceBinding
import N0wss.Datagram.RoundTrip
import N0wss.Gateway.DatagramLoop
import N0wss.Core.SharedStore
import N0wss.Session.SharedRegistry
import N0wss.Session.SharedUdpRegistry
import N0wss.Session.Ownership
import N0wss.Bridge.Drain
import N0wss.Bridge.Replies
import N0wss.Core.Fifo
import N0wss.Gateway.RelayLoops
import N0wss.Gateway.Relay
import N0wss.Gateway.RelayEnd
import N0wss.Core.Checked
import N0wss.Session.Lifecycle
import N0wss.Datagram.Cursor
import N0wss.Socks5.UdpPacket
import N0wss.Core.Segments
import N0wss.Socks5.Grammar
import N0wss.Gateway.ReplyWindow
import N0wss.Core.Timed
import N0wss.Gateway.ClientPath
import N0wss.Session.Selector
import N0wss.Gateway.EmitDatagram
import N0wss.Gateway.ReplyOwner
import N0wss.Gateway.WireContract
import N0wss.Gateway.TargetFailure
import N0wss.Bridge.Shutdown
import N0wss.Gateway.Redaction
import N0wss.Config.Load
import N0wss.Cli.Limits
import N0wss.Core.Window
import N0wss.Obs.BurstDetector
import N0wss.Gateway.StreamShutdown
import N0wss.Gateway.IdleAssociations
import N0wss.OrigDst.ControlMessages
import N0wss.OrigDst.Runtime
import N0wss.Core.Cancellable
import N0wss.Session.Cancellation
import N0wss.Socks5.Answered
import N0wss.Core.Walk
import N0wss.OrigDst.ControlWalk
import N0wss.OrigDst.ControlArea
import N0wss.Iroh.Bridge
import N0wss.Iroh.BridgeEnd
import N0wss.Core.Spawned
import N0wss.Gateway.Server
import N0wss.OrigDst.Listener
import N0wss.Cli.ServerMode
import N0wss.Cli.LiveMode
import N0wss.Gateway.Agreement
import N0wss.Session.SelectorTiming
import N0wss.Gateway.DatagramExchange
import N0wss.Gateway.ProxiedConnection
import N0wss.Obs.SharedDetector
