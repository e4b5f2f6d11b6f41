import VenusEvcharger.Auto.StartDiscipline
import VenusEvcharger.Auto.StopDiscipline
import VenusEvcharger.AutoInputHelper.CapacityPersistence
import VenusEvcharger.AutoInputHelper.ExternalScheduler
import VenusEvcharger.AutoInputHelper.GridFusionAgreement
import VenusEvcharger.AutoInputHelper.LearningAgreement
import VenusEvcharger.AutoInputHelper.SelectSoc
import VenusEvcharger.Backend.ModbusClient
import VenusEvcharger.Backend.ModbusCrc
import VenusEvcharger.Backend.SwitchGroup
import VenusEvcharger.Control.CommandQueue
import VenusEvcharger.Control.EventStream
import VenusEvcharger.Control.IdempotencyRuns
import VenusEvcharger.Control.RateLimiter
import VenusEvcharger.Control.StopSurvives
import VenusEvcharger.DbusAdapter.AsyncBrokerRuns
import VenusEvcharger.DbusAdapter.PublicationIndex
import VenusEvcharger.DbusAdapter.PvAggregateRuns
import VenusEvcharger.DbusAdapter.PvDormancy
import VenusEvcharger.DbusAdapter.ReadScheduler
import VenusEvcharger.DbusAdapter.RelaySetDiscipline
import VenusEvcharger.DbusAdapter.ShellyDisabling
import VenusEvcharger.DbusAdapter.SocketRequests
import VenusEvcharger.DbusAdapter.TickPolicy
import VenusEvcharger.Energy.BinaryCodec
import VenusEvcharger.Energy.LearningStatistics
import VenusEvcharger.ForensicObserver.Retention
import VenusEvcharger.Inputs.SnapshotRuntime
import VenusEvcharger.Ipc.CommandMailboxCoalescing
import VenusEvcharger.Ipc.CommandQuarantine
import VenusEvcharger.Ipc.DurablePublication
import VenusEvcharger.Ipc.FastPublicationBounds
import VenusEvcharger.Ipc.FastPublicationNoRegression
import VenusEvcharger.Ipc.PublicationOrderCapacity
import VenusEvcharger.Ipc.PublicationSequence
import VenusEvcharger.NativeGateway.CoreReads
import VenusEvcharger.NativeGateway.FastLaneProgress
import VenusEvcharger.NativeGateway.Introspection
import VenusEvcharger.NativeGateway.OperationBroker
import VenusEvcharger.NativeGateway.ReaderScheduling
import VenusEvcharger.NativeGateway.RelayCommand
import VenusEvcharger.NativeGateway.ResourceMonitor
import VenusEvcharger.Runtime.CoreCommandRuns
import VenusEvcharger.State.LoadingTotal
import VenusEvcharger.State.OverrideRuns
import VenusEvcharger.Update.ContactorRuns
import VenusEvcharger.Update.EssBalanceRuns
import VenusEvcharger.Update.EssOscillation
import VenusEvcharger.Update.EssPid
import VenusEvcharger.Update.InputCache
import VenusEvcharger.Update.LearningCoherence
import VenusEvcharger.Update.LearningSignature
import VenusEvcharger.Update.NoEnableUnderFault
import VenusEvcharger.Update.PhaseLockout
import VenusEvcharger.Update.PhaseUnderLoad
import VenusEvcharger.Update.PmFreshness
import VenusEvcharger.Update.WithdrawnStart
