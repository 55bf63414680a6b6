import Talko.Library.Run
import Talko.Library.Simulation
import Talko.Library.ByteRange
import Talko.Library.Endian
import Talko.Library.Decimal
import Talko.Library.SevenBit
import Talko.Library.Split
import Talko.Library.Cuts
import Talko.Library.SqlLiteral
import Talko.Library.SqlText
import Talko.Library.SqlStatement
import Talko.Library.Bitmask
import Talko.Library.OrderedSet
import Talko.Library.KeyedList
import Talko.Library.Lending
import Talko.Library.Frames
import Talko.Library.FileTable
import Talko.Library.RoundRobin
import Talko.Library.Monitor
import Talko.Network.Socket
import Talko.Network.Acceptor
import Talko.Network.AcceptorProperties
import Talko.Network.InetEndian
import Talko.Network.InetAddress
import Talko.Network.InetAddressProperties
import Talko.Network.ByteBuffer
import Talko.Network.ByteBufferProperties
import Talko.Network.ByteBufferReadProperties
import Talko.Network.ByteBufferRefinement
import Talko.Network.ByteBufferInts
import Talko.Network.ProtocolStream
import Talko.Network.ProtocolStreamProperties
import Talko.Network.ProtocolStreamRoundTrip
import Talko.Network.ProtocolStreamNulls
import Talko.Network.Checksum
import Talko.Network.ProtocolStreamBounds
import Talko.Network.ProtocolStreamCursor
import Talko.Network.ProtocolStreamLengths
import Talko.Network.TcpSession
import Talko.Network.EpollPoller
import Talko.Network.EpollPollerProperties
import Talko.Network.EpollPollerInterest
import Talko.Network.EpollPollerPoll
import Talko.Network.TcpConnection
import Talko.Network.TcpConnectionProperties
import Talko.Network.TcpConnectionStream
import Talko.Network.TcpConnectionErrors
import Talko.Network.TcpConnectionCallbacks
import Talko.Network.TcpConnectionIteration
import Talko.Network.TcpConnectionTeardown
import Talko.Network.TcpConnectionThreads
import Talko.Network.TcpConnectionShutdown
import Talko.Network.TcpConnectionOutbound
import Talko.Network.TcpSessionThreads
import Talko.Network.TimerQueue
import Talko.Network.TimerQueueProperties
import Talko.Network.TimerQueueEdits
import Talko.Network.TimerLoop
import Talko.Network.TimerLoopCounts
import Talko.Network.TimerLoopPasses
import Talko.Network.TimerLoopRange
import Talko.Network.EventLoopTimers
import Talko.Network.TcpConnectionLifeCycle
import Talko.Network.EventLoop
import Talko.Network.EventLoopProperties
import Talko.Network.EventLoopThread
import Talko.Network.EventLoopWakeup
import Talko.Network.TimerRequests
import Talko.Network.TimerRequestsProperties
import Talko.Network.TimerRemovals
import Talko.Network.ConnectionHolders
import Talko.Network.ConnectionLifetime
import Talko.Network.ConnectionEvents
import Talko.Service.UserManager
import Talko.Service.UserManagerProperties
import Talko.Service.Accounts
import Talko.Service.AccountsProperties
import Talko.Service.Registration
import Talko.Service.RegistrationIds
import Talko.Service.RegistrationNames
import Talko.Service.FriendLists
import Talko.Service.FriendUpdates
import Talko.Service.FriendRoster
import Talko.Service.UserUpdates
import Talko.Service.UserUpdatesProperties
import Talko.Service.AccountsRestart
import Talko.Service.FriendTeams
import Talko.Service.FriendTeamsProperties
import Talko.Service.FriendTeamsFailures
import Talko.Service.FriendTable
import Talko.Service.HttpSession
import Talko.Service.HttpRequests
import Talko.Service.HttpChunks
import Talko.Service.HttpResponse
import Talko.Service.HttpRegistry
import Talko.Service.ThreadPool
import Talko.Service.ThreadPoolProperties
import Talko.Service.ThreadPoolResize
import Talko.Service.StatementTexts
import Talko.Service.NetServer
import Talko.Service.NetServerProperties
import Talko.Service.NetServerFiles
import Talko.Network.TcpServer
import Talko.Network.TcpServerProperties
import Talko.Network.TcpServerNames
import Talko.Network.EventLoopThreadPool
import Talko.Log.WhispLog
import Talko.Log.LogRolling
import Talko.Log.LogShutdown
import Talko.Log.LogDrains
import Talko.Log.LogWrites
import Talko.Log.LogDump
import Talko.Log.LogDumpProperties
import Talko.Database.MysqlConnPool
import Talko.Database.MySQLConnectionPool
import Talko.Database.MySQLConnectionPoolInit
import Talko.Database.PoolWaiting
import Talko.Common.ZlibUtil
import Talko.Common.StringUtil
import Talko.Common.StringUtilProperties
