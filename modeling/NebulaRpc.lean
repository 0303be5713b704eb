import NebulaRpc.Library.Bytes
import NebulaRpc.Library.Framing
import NebulaRpc.Library.Pipes
import NebulaRpc.Library.ProtoWire
import NebulaRpc.Library.IntrusiveList
import NebulaRpc.Library.Lists
import NebulaRpc.Library.Tables
import NebulaRpc.Library.Histogram
import NebulaRpc.Library.Histories
import NebulaRpc.Library.Transition
import NebulaRpc.Net.Buffer
import NebulaRpc.Net.BufferMemory
import NebulaRpc.Net.TimerQueue
import NebulaRpc.Net.TimerLinks
import NebulaRpc.Net.TimerSlots
import NebulaRpc.Net.TimerSet
import NebulaRpc.Net.TimerWheel
import NebulaRpc.Net.TimerRuns
import NebulaRpc.Net.TimerOrder
import NebulaRpc.Net.TimerLoop
import NebulaRpc.Net.TimerRepresentation
import NebulaRpc.Net.TimerIds
import NebulaRpc.Net.TimerClock
import NebulaRpc.Net.TimerDrain
import NebulaRpc.Net.TimerCancel
import NebulaRpc.Net.EventLoop
import NebulaRpc.Net.Postings
import NebulaRpc.Net.Connector
import NebulaRpc.Net.ConnectorLoop
import NebulaRpc.Net.Backoff
import NebulaRpc.Net.TcpConnection
import NebulaRpc.Net.Output
import NebulaRpc.Net.RemoteWrites
import NebulaRpc.Net.Callbacks
import NebulaRpc.Net.TcpClient
import NebulaRpc.Net.ConnectorStop
import NebulaRpc.Net.Backpressure
import NebulaRpc.Net.TcpServer
import NebulaRpc.Coro.Task
import NebulaRpc.Coro.Ownership
import NebulaRpc.Coro.Transfers
import NebulaRpc.Coro.Linear
import NebulaRpc.Rpc.Codec
import NebulaRpc.Rpc.WireFormat
import NebulaRpc.Rpc.RoundTrip
import NebulaRpc.Rpc.CodecMemory
import NebulaRpc.Rpc.Receive
import NebulaRpc.Rpc.Controller
import NebulaRpc.Rpc.Channel
import NebulaRpc.Rpc.Census
import NebulaRpc.Rpc.Completion
import NebulaRpc.Rpc.Deadlines
import NebulaRpc.Rpc.Server
import NebulaRpc.Rpc.ErrorReply
import NebulaRpc.Rpc.ServerInput
import NebulaRpc.Rpc.ServerCalls
import NebulaRpc.Rpc.Replies
import NebulaRpc.Rpc.ReplyFlush
import NebulaRpc.Rpc.Subtraction
import NebulaRpc.Rpc.Effects
import NebulaRpc.Rpc.Forms
import NebulaRpc.Rpc.Bookings
import NebulaRpc.Rpc.Metrics
import NebulaRpc.Rpc.Percentiles
import NebulaRpc.Rpc.Classification
import NebulaRpc.Rpc.Outcome
import NebulaRpc.Rpc.Awaiter
import NebulaRpc.Rpc.Resume
import NebulaRpc.Rpc.Nesting
import NebulaRpc.Rpc.AwaiterStorage
import NebulaRpc.Rpc.Resources
import NebulaRpc.Rpc.Connectivity
import NebulaRpc.Rpc.ChannelClient
import NebulaRpc.Rpc.CancelClosures
import NebulaRpc.Rpc.Unsent
import NebulaRpc.Rpc.Rejection
import NebulaRpc.Rpc.Link
import NebulaRpc.Rpc.Gate
import NebulaRpc.Rpc.Heartbeat
import NebulaRpc.Rpc.LoopedChannel
import NebulaRpc.Rpc.BatchFlush
import NebulaRpc.Rpc.GracefulStop
import NebulaRpc.Rpc.CallFrames
import NebulaRpc.Rpc.ReplyOrigin
import NebulaRpc.Rpc.EndToEnd
import NebulaRpc.Rpc.Placement
import NebulaRpc.Rpc.NoLostCall
