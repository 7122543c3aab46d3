import QuestVdWired.Transition.System
import QuestVdWired.Transition.Tokens
import QuestVdWired.Transition.Ledger
import QuestVdWired.Wire.Bytes
import QuestVdWired.Wire.Codec
import QuestVdWired.Host.Protocol
import QuestVdWired.Host.StateMachine
import QuestVdWired.Host.Lifecycle
import QuestVdWired.Host.RelayGate
import QuestVdWired.Host.RelayGateController
import QuestVdWired.Host.TransportRecovery
import QuestVdWired.Host.RecoveryTasks
import QuestVdWired.Host.RecoveryEpisodes
import QuestVdWired.Host.RecoveryBound
import QuestVdWired.Host.ControlServer
import QuestVdWired.Host.ControlSteps
import QuestVdWired.Host.ControlEpochs
import QuestVdWired.Host.ControlPublication
import QuestVdWired.Host.ControlSupersession
import QuestVdWired.Host.ControlStop
import QuestVdWired.Host.ControlCleanup
import QuestVdWired.Host.ControlReset
import QuestVdWired.Host.AdbMonitor
import QuestVdWired.Host.HostRuntime
import QuestVdWired.Host.MonitorSteps
import QuestVdWired.Host.RuntimeSteps
import QuestVdWired.Host.RecoveryFreshness
import QuestVdWired.Host.RelayService
import QuestVdWired.Host.FrameCodec
import QuestVdWired.Android.Gnr4
import QuestVdWired.Link.Gnr4Agreement
import QuestVdWired.Host.HevUdpFrame
import QuestVdWired.Host.StreamerCandidates
import QuestVdWired.Host.CandidateStreams
import QuestVdWired.Host.QueueBudget
import QuestVdWired.Host.UdpRelay
import QuestVdWired.Host.UdpAccounting
import QuestVdWired.Transition.Carry
import QuestVdWired.Host.UdpFaults
import QuestVdWired.Oracle.Asking
import QuestVdWired.Wire.Text
import QuestVdWired.Host.AdbController
import QuestVdWired.Host.AdbTransactions
import QuestVdWired.Host.OperationGuard
import QuestVdWired.Monitor.Threads
import QuestVdWired.Android.VpnService
import QuestVdWired.Android.LockOrder
import QuestVdWired.Android.ControlLoop
import QuestVdWired.Android.ControlFraming
import QuestVdWired.Link.Heartbeats
import QuestVdWired.Relay.StreamBuffer
import QuestVdWired.Relay.TcpConnection
import QuestVdWired.Relay.TcpDownload
import QuestVdWired.Relay.TcpSelection
import QuestVdWired.Relay.TcpUpload
import QuestVdWired.Android.SessionLifecycle
import QuestVdWired.Android.LifecycleSteps
import QuestVdWired.Android.LifecycleSessions
import QuestVdWired.Android.SessionDescriptors
import QuestVdWired.Android.StopRequests
import QuestVdWired.Android.DescriptorFlag
import QuestVdWired.Android.StoppedFrames
import QuestVdWired.Android.HevTunnel
import QuestVdWired.Android.SleepWake
import QuestVdWired.Android.SleepSteps
import QuestVdWired.Android.SleepLocks
import QuestVdWired.Android.WakeConvergence
import QuestVdWired.Android.SleepStartup
import QuestVdWired.Java.ByteBuffer
import QuestVdWired.Wire.Framing
import QuestVdWired.Relay.DatagramBuffer
import QuestVdWired.Relay.IPv4Packet
import QuestVdWired.Relay.ClientInput
import QuestVdWired.Legacy.PacketOutput
import QuestVdWired.Host.VpnClosure
import QuestVdWired.Relay.TcpWindow
import QuestVdWired.Relay.UdpConnection
import QuestVdWired.Relay.Router
import QuestVdWired.Android.HevJni
import QuestVdWired.Legacy.RelayTunnelProvider
import QuestVdWired.Host.StopCommand
import QuestVdWired.Host.StopQuiescence
import QuestVdWired.Java.Arithmetic
import QuestVdWired.Relay.StreamArray
import QuestVdWired.Wire.OnesComplement
import QuestVdWired.Relay.Checksum
import QuestVdWired.Legacy.PacketWrites
import QuestVdWired.Relay.DeviceTracking
import QuestVdWired.Host.TrackDevicesDecoder
import QuestVdWired.Host.SocksRequest
import QuestVdWired.Wire.Separated
import QuestVdWired.Wire.Json
import QuestVdWired.Android.CapabilityReader
import QuestVdWired.Android.CapabilityGrammar
import QuestVdWired.Android.HelloAck
import QuestVdWired.Wire.FileSystem
import QuestVdWired.Wire.Lines
import QuestVdWired.Wire.Generations
import QuestVdWired.Host.Diagnostics
import QuestVdWired.Host.LogRotation
import QuestVdWired.Host.LogRetention
import QuestVdWired.Host.LogFailures
import QuestVdWired.Host.SharedLog
import QuestVdWired.Host.SharedLogOrder
import QuestVdWired.Wire.JsonValue
import QuestVdWired.Host.Redaction
import QuestVdWired.Host.RestartPolicy
import QuestVdWired.Transition.Since
import QuestVdWired.Host.StateStore
import QuestVdWired.Wire.Utf8
import QuestVdWired.Host.BrokerFrame
import QuestVdWired.Statistics.NearestRank
import QuestVdWired.Host.LatencyHistogram
import QuestVdWired.Host.AdbCapture
import QuestVdWired.Host.VirtualDesktopFlow
