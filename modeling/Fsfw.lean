import Fsfw.Cfdp.BufferLimit
import Fsfw.Cfdp.DeclaredLength
import Fsfw.Container.BoundedQueue
import Fsfw.Container.ByteQueue
import Fsfw.Container.MapSerialization
import Fsfw.Container.OverwriteOld
import Fsfw.Container.Reservations
import Fsfw.Container.SortedMultimap
import Fsfw.DataLinkLayer.DataLinkLayer
import Fsfw.DataLinkLayer.Farm1
import Fsfw.DataLinkLayer.Reassembly
import Fsfw.GlobalFunctions.DleBuffers
import Fsfw.GlobalFunctions.DleParserStream
import Fsfw.GlobalFunctions.DleResync
import Fsfw.Pus.ExpiredTelecommands
import Fsfw.Pus.RequestIds
import Fsfw.Pus.ScheduleStore
import Fsfw.StorageManager.AccessorOwnership
import Fsfw.StorageManager.FirstFit
import Fsfw.StorageManager.PoolZeroing
import Fsfw.StorageManager.RefusedRequests
import Fsfw.TcDistribution.CcsdsDistributor
import Fsfw.TimeManager.CCSDSTime
import Fsfw.TcDistribution.PusDistributor
import Fsfw.DataPoolLocal.ChangeNotification
import Fsfw.DataPoolLocal.StoreElements
import Fsfw.Events.EventManager
import Fsfw.TmTcPacket.PacketMatchTree
import Fsfw.Subsystem.ModeSequenceCommands
import Fsfw.Subsystem.SequencePacing
import Fsfw.Action.SettledOnce
import Fsfw.Osal.TcpTmTcServer
import Fsfw.TmTcServices.TmTcBridge
import Fsfw.TmTcServices.CommandTimeouts
import Fsfw.TmTcServices.PacketSearch
import Fsfw.TmTcServices.TelecommandLedger
import Fsfw.Modes.ModeAnswers
import Fsfw.TmTcServices.PusServiceBase
import Fsfw.Memory.MemoryReplies
import Fsfw.Osal.TcpTmTcBridge
import Fsfw.Fdir.RecoveryLimits
import Fsfw.Thermal.HeaterSafety
import Fsfw.Parameters.ParameterHelper
import Fsfw.TmTcPacket.PusTcCreator
import Fsfw.TmTcPacket.PusTmCreator
import Fsfw.Cfdp.FilestoreRoundTrip
import Fsfw.Cfdp.PduReaders
import Fsfw.Cfdp.FieldRoundTrips
import Fsfw.Cfdp.FileDataReader
import Fsfw.Cfdp.ReusedFields
import Fsfw.DataPoolLocal.ValidityBuffer
import Fsfw.Housekeeping.HousekeepingSetPacket
import Fsfw.DataLinkLayer.LostPackets
import Fsfw.DeviceHandlers.ReplyScanning
import Fsfw.DeviceHandlers.ReplySettlement
import Fsfw.DeviceHandlers.SwitchAgreement
import Fsfw.GlobalFunctions.MatchTreeSerialization
import Fsfw.Events.SubscriptionPool
import Fsfw.GlobalFunctions.CrcPolynomial
import Fsfw.TmTcPacket.PusTmZeroCopyWriter
import Fsfw.Health.HealthReport
import Fsfw.Library.Updates
import Fsfw.Osal.MessageDelivery
import Fsfw.Parameters.ParameterCopy
import Fsfw.Parameters.ParameterSerialization
import Fsfw.Power.PowerSwitcher
import Fsfw.Tasks.FixedSlotSequence
import Fsfw.Pus.VerificationDownlink
import Fsfw.TcDistribution.TelecommandConservation
import Fsfw.TimeManager.FoundLength
import Fsfw.TmTcServices.SourceSequenceCounter
import Fsfw.DataPool.PoolDataSetBase
import Fsfw.GlobalFunctions.AsciiConverter
import Fsfw.InternalError.InternalErrorReporter
import Fsfw.Library.Arbitration
import Fsfw.Monitoring.MonitorReporter
import Fsfw.Pus.Service5EventReporting
import Fsfw.Serialize.BufferReuse
import Fsfw.Serialize.ListAdapters
import Fsfw.Thermal.ThermalModule
