import Usque.Lib.Transition
import Usque.Lib.Splice
import Usque.Lib.Fifo
import Usque.Lib.LossyFifo
import Usque.Lib.Procedure
import Usque.Lib.Trace
import Usque.ConnectIp
import Usque.NativeTun
import Usque.Http3
import Usque.Net
import Usque.Timing
import Usque.Icmp
import Usque.Uplink
import Usque.UplinkSteps
import Usque.BufferPool
import Usque.UplinkOrder
import Usque.DataLoop
import Usque.DataLoopSteps
import Usque.UplinkRuns
import Usque.TunnelLifetime
import Usque.TimerService
import Usque.SendPacket
import Usque.Session
import Usque.SessionSteps
import Usque.SessionHistory
import Usque.Supervisor
import Usque.SupervisorSteps
import Usque.EndpointRotation
import Usque.EndpointPinning
import Usque.SessionLifecycle
import Usque.PathMtuRuns
import Usque.HandshakeDeadline
import Usque.Lib.Markup
import Usque.Lib.Fallible
import Usque.Mdm
import Usque.MdmGrammar
import Usque.Access
import Usque.AccessCallback
import Usque.DatagramFraming
import Usque.QueueTx
import Usque.PathAgreement
import Usque.PumpWaits
import Usque.DeviceState
import Usque.DeviceReports
import Usque.Config
import Usque.RunTunnel
import Usque.Handshake
import Usque.PacketTooBig
import Usque.Lib.Interrupted
import Usque.Registration
import Usque.RegistrationRefresh
import Usque.ConfigFile
import Usque.ConfigSaves
import Usque.ConfigPermissions
import Usque.Lib.OnesComplement
import Usque.Checksum
import Usque.HopDecrement
import Usque.ChecksumAgreement
import Usque.TooLargeReply
import Usque.DownlinkDrain
import Usque.Lib.FirstOccurrences
import Usque.Lib.ClassSort
import Usque.EndpointSelection
import Usque.SocketBuffer
import Usque.SocketBufferCap
import Usque.UdpBatch
import Usque.UdpBatchRuns
import Usque.ConnectResponse
import Usque.Lib.References
import Usque.MdmText
import Usque.EchoProbe
import Usque.MeshToken
import Usque.CallbackAcceptance
import Usque.RegistrationAnswers
import Usque.EnrollmentIdentity
import Usque.Lib.FileTree
import Usque.MeshTokenFile
import Usque.MeshTokens
import Usque.RegistrationFile
import Usque.Lib.Window
import Usque.UdpReceive
import Usque.UdpReceiveRuns
import Usque.Lib.Spaced
import Usque.PumpTimers
import Usque.StatsReports
import Usque.Lib.Numeral
import Usque.AddressText
import Usque.AccountEndpoints
import Usque.Lib.JsonText
import Usque.ConfigText
import Usque.ConfigReloads
import Usque.StoredKey
import Usque.StoredConfig
import Usque.Lib.Watch
import Usque.DeviceUpdates
import Usque.TunnelBorders
import Usque.TrustChain
