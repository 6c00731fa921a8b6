import Epoxy.ActionMachine
import Epoxy.ActorLoop
import Epoxy.AddressBlock
import Epoxy.AddressPolicy
import Epoxy.AddressText
import Epoxy.AsyncFn
import Epoxy.BrowserTransport
import Epoxy.BuilderCalls
import Epoxy.BuilderFeeding
import Epoxy.ByteCursor
import Epoxy.ClientLifecycle
import Epoxy.ClientStreams
import Epoxy.CloseReasons
import Epoxy.CloseTruncation
import Epoxy.CloseWakeup
import Epoxy.ConfigCache
import Epoxy.ContinueFlush
import Epoxy.CopyRace
import Epoxy.Credentials
import Epoxy.CreditFlow
import Epoxy.CreditRace
import Epoxy.CreditWait
import Epoxy.CreditWindow
import Epoxy.DecoderPanics
import Epoxy.Demultiplexing
import Epoxy.DirectIp
import Epoxy.ExtensionBuilders
import Epoxy.ExtensionLayout
import Epoxy.FailedSends
import Epoxy.FairMerge
import Epoxy.ForwardRuns
import Epoxy.ForwardStream
import Epoxy.GlobalAddress
import Epoxy.GracefulClose
import Epoxy.Handshake
import Epoxy.HandshakeAgreement
import Epoxy.HandshakeCompletion
import Epoxy.HandshakeRuns
import Epoxy.HeaderLists
import Epoxy.HostSpelling
import Epoxy.HtmlTokens
import Epoxy.HttpValues
import Epoxy.IndexContainment
import Epoxy.IndexPage
import Epoxy.InfoFraming
import Epoxy.InfoPacket
import Epoxy.IpAddr
import Epoxy.IteratorTransport
import Epoxy.KeyDirectory
import Epoxy.LockDiscipline
import Epoxy.LockWakeup
import Epoxy.LockedSink
import Epoxy.Multiplexor
import Epoxy.MuxDirectory
import Epoxy.MuxEndpoint
import Epoxy.MuxInner
import Epoxy.MuxRun
import Epoxy.MuxStream
import Epoxy.NumberText
import Epoxy.Packet
import Epoxy.PacketCodec
import Epoxy.PollChannel
import Epoxy.PolledSink
import Epoxy.Redirects
import Epoxy.RelayLoop
import Epoxy.RequestAnswers
import Epoxy.RequestOutcomes
import Epoxy.RequestPanics
import Epoxy.ScriptStrings
import Epoxy.ServerConfig
import Epoxy.ServerGate
import Epoxy.SessionNetwork
import Epoxy.SinkCredit
import Epoxy.SinkMutex
import Epoxy.SlabStore
import Epoxy.SocketAddr
import Epoxy.StreamBookkeeping
import Epoxy.StreamClose
import Epoxy.StreamInfo
import Epoxy.StreamIsolation
import Epoxy.StreamPackets
import Epoxy.StreamPolls
import Epoxy.StreamProvider
import Epoxy.StreamResolve
import Epoxy.TaskWorld
import Epoxy.TextReader
import Epoxy.TransportClose
import Epoxy.TransportContracts
import Epoxy.Tunnel
import Epoxy.TunnelAgreement
import Epoxy.TunnelDelivery
import Epoxy.TunnelParties
import Epoxy.TunnelStreams
import Epoxy.Twisp
import Epoxy.TwispTerminals
import Epoxy.UnfairSelect
import Epoxy.UnofferedExtensions
import Epoxy.UriReference
import Epoxy.WebSocketUpgrade
import Epoxy.WispForwarding
import Epoxy.Wispnet
import Epoxy.WriteAfterClose
import Epoxy.WriteOrder
import Epoxy.WritePaths
import Epoxy.WsProxy
import Epoxy.WsProxyRuns
