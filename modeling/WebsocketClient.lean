import WebsocketClient.ByteString
import WebsocketClient.CApi
import WebsocketClient.Utils
import WebsocketClient.Http
import WebsocketClient.Transport
import WebsocketClient.Handshake
import WebsocketClient.HandshakeRoundTrip
import WebsocketClient.Message
import WebsocketClient.Frame
import WebsocketClient.WsTransport
import WebsocketClient.WsMessages
import WebsocketClient.Library.Chunks
import WebsocketClient.WsChunks
import WebsocketClient.WsStreams
import WebsocketClient.WsCuts
import WebsocketClient.Queue
import WebsocketClient.Library.Guarded
import WebsocketClient.ReceiveQueue
import WebsocketClient.TcpTransport
import WebsocketClient.Library.Runs
import WebsocketClient.TcpPoll
import WebsocketClient.Library.LockOrder
import WebsocketClient.SendPath
import WebsocketClient.SendOrder
import WebsocketClient.SendRegion
import WebsocketClient.WebSocketState
import WebsocketClient.Delivery
import WebsocketClient.Library.Threads
import WebsocketClient.Lifecycle
import WebsocketClient.LifecycleOrder
import WebsocketClient.ConnectionTimeout
import WebsocketClient.Init
import WebsocketClient.Channel
import WebsocketClient.TransportStack
import WebsocketClient.TlsSend
import WebsocketClient.TlsRead
import WebsocketClient.HttpProxyTransport
import WebsocketClient.WsLog
import WebsocketClient.WsUpgrade
import WebsocketClient.AfterClose
import WebsocketClient.CloseOrder
import WebsocketClient.ReceiveMessage
import WebsocketClient.PollService
import WebsocketClient.TcpConnect
import WebsocketClient.ThreadPool
import WebsocketClient.Processor
import WebsocketClient.TlsRecv
import WebsocketClient.SendCallback
import WebsocketClient.BufferedAmount
import WebsocketClient.Library.Histories
import WebsocketClient.TlsDoRecv
import WebsocketClient.TerminalState
import WebsocketClient.FrameLoop
import WebsocketClient.QueueAmount
import WebsocketClient.QueueThreads
import WebsocketClient.FramePointers
import WebsocketClient.WsBounds
import WebsocketClient.MessageAssembly
import WebsocketClient.StoredCallback
import WebsocketClient.Library.Regex
import WebsocketClient.UrlRegex
import WebsocketClient.Configuration
import WebsocketClient.OpenUrl
import WebsocketClient.RequestText
import WebsocketClient.HttpLines
import WebsocketClient.UrlDecode
import WebsocketClient.Base64
import WebsocketClient.HeaderFields
import WebsocketClient.SendSizes
import WebsocketClient.PollTimeout
import WebsocketClient.Available
import WebsocketClient.BusyWorkers
import WebsocketClient.ConnectChain
import WebsocketClient.SessionFrames
import WebsocketClient.Session
import WebsocketClient.SessionReads
import WebsocketClient.SessionMessages
import WebsocketClient.SessionEnd
import WebsocketClient.SessionPings
import WebsocketClient.PollInterrupter
import WebsocketClient.WsServer
import WebsocketClient.Library.Refinement
import WebsocketClient.TcpStream
import WebsocketClient.WsAnswers
import WebsocketClient.TcpSession
import WebsocketClient.TcpSessionEnd
import WebsocketClient.SessionSockets
import WebsocketClient.ThreadPoolTasks
import WebsocketClient.PooledProcessor
import WebsocketClient.SessionUrl
import WebsocketClient.WsWire
import WebsocketClient.PooledWorkers
import WebsocketClient.CloseModels
