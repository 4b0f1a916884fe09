import Oneshim.Lib.Table
import Oneshim.Lib.SerialTable
import Oneshim.Lib.Register
import Oneshim.Lib.Rfc3339
import Oneshim.Lib.Outcome
import Oneshim.Core.Sync
import Oneshim.Core.Clock
import Oneshim.Lib.Hex
import Oneshim.Storage.Schema
import Oneshim.Storage.SyncMerger
import Oneshim.Storage.MergeSpec
import Oneshim.Storage.ApplySpec
import Oneshim.Storage.Idempotence
import Oneshim.Storage.SyncExtractor
import Oneshim.Storage.Convergence
import Oneshim.Storage.SuggestionMerge
import Oneshim.Storage.Extraction
import Oneshim.Storage.Transfer
import Oneshim.Storage.Acceptance
import Oneshim.Storage.EmbeddingTransfer
import Oneshim.Core.Consent
import Oneshim.Engine.SyncEngine
import Oneshim.Engine.Revocation
import Oneshim.Lib.Text
import Oneshim.Storage.FileTransport
import Oneshim.Storage.FilePull
import Oneshim.Engine.Pull
import Oneshim.Storage.SyncRows
import Oneshim.Engine.Push
import Oneshim.Storage.Locality
import Oneshim.Storage.Deletion
import Oneshim.Engine.Durability
import Oneshim.Network.RemoteTransport
import Oneshim.Network.LanTransport
import Oneshim.Network.Acknowledgement
import Oneshim.Network.CompositePull
import Oneshim.Lib.ExpiringTable
import Oneshim.Network.LanServer
import Oneshim.Updater.Release
import Oneshim.Updater.Download
import Oneshim.Updater.Install
import Oneshim.Updater.Coordinator
import Oneshim.Updater.Executor
import Oneshim.Updater.HealthProbe
import Oneshim.Updater.Rollback
import Oneshim.Updater.SweepRace
import Oneshim.Updater.Approval
import Oneshim.Lib.Durable
import Oneshim.Integration.Model
import Oneshim.Integration.StateStore
import Oneshim.Integration.Egress
import Oneshim.Integration.Inbox
import Oneshim.Integration.LiveChannel
import Oneshim.Integration.Producer
import Oneshim.Integration.Session
import Oneshim.Core.Event
import Oneshim.Core.F32
import Oneshim.Privacy.Upload
import Oneshim.Lib.Calls
import Oneshim.Vision.PrivacyGateway
import Oneshim.Vision.RingBuffer
import Oneshim.Automation.Confirmation
import Oneshim.Automation.ConfirmationOverlap
import Oneshim.Automation.Policy
import Oneshim.Automation.Controller
import Oneshim.Automation.Authority
import Oneshim.Config.AppConfig
import Oneshim.Config.ConfigManager
import Oneshim.Config.Settings
import Oneshim.Config.TrackingSchedule
import Oneshim.Suggestions.FeedbackRetry
import Oneshim.Suggestions.Queue
import Oneshim.Suggestions.Restore
import Oneshim.Search.VectorTable
import Oneshim.Search.Statements
import Oneshim.Search.Searches
import Oneshim.Search.AdaptiveSearch
import Oneshim.Focus.FocusAnalyzer
import Oneshim.Focus.Bookkeeping
import Oneshim.Storage.Events
import Oneshim.Network.CircuitBreaker
import Oneshim.Network.BatchUploader
import Oneshim.Scheduler.SyncLoop
import Oneshim.Storage.Erasure
import Oneshim.Monitor.InputActivity
import Oneshim.Scheduler.InputLoops
import Oneshim.Analysis.ContentTracker
import Oneshim.Analysis.Segments
import Oneshim.Analysis.PatternMiner
import Oneshim.Analysis.Analyzer
import Oneshim.Analysis.Assembler
import Oneshim.Network.RefreshCoordinator
import Oneshim.Network.TokenManager
import Oneshim.Storage.FrameStorage
import Oneshim.Storage.FrameNames
import Oneshim.Storage.FrameSizes
import Oneshim.Analysis.RegimeDetector
import Oneshim.Analysis.RegimeManager
import Oneshim.Automation.GuiService
import Oneshim.Automation.GuiStates
import Oneshim.Automation.GuiPlans
import Oneshim.Automation.GuiTickets
import Oneshim.Automation.TicketPayload
import Oneshim.Automation.PolicyIndex
import Oneshim.Automation.PolicyTokens
import Oneshim.Automation.TokenIssue
import Oneshim.Analysis.Questions
import Oneshim.Focus.WorkSessions
import Oneshim.Monitor.WindowLayout
import Oneshim.Scheduler.MonitorTick
import Oneshim.Scheduler.MonitorGate
import Oneshim.Search.IvfAgreement
import Oneshim.Search.FilteredSearch
import Oneshim.Search.TwoStage
import Oneshim.Search.IvfBuild
import Oneshim.Search.IvfPartition
import Oneshim.Lib.Session
import Oneshim.Search.IvfRebuild
import Oneshim.Search.BinaryLevels
import Oneshim.Storage.QuantizedCopy
import Oneshim.Storage.BackfillFailure
import Oneshim.Lib.OrderedSet
import Oneshim.Suggestions.QueueInvariant
import Oneshim.Suggestions.Eviction
import Oneshim.Suggestions.Fingerprints
import Oneshim.Lib.CallTotals
import Oneshim.Network.UploaderCalls
import Oneshim.Network.UploaderSequence
import Oneshim.Network.BreakerDiscipline
import Oneshim.Automation.AuditLogger
import Oneshim.Storage.AuditLog
import Oneshim.Updater.FailedInstall
import Oneshim.Lib.FileTree
import Oneshim.Updater.Extract
import Oneshim.Integration.SaveFailure
import Oneshim.Vision.RegionCoverage
import Oneshim.Automation.PolicyDto
import Oneshim.Scheduler.ScheduleNotices
import Oneshim.Vision.Delta
import Oneshim.Storage.TimeQueries
import Oneshim.Config.ScheduleStatus
import Oneshim.Lib.Loop
import Oneshim.Lib.Utf8
import Oneshim.Vision.Maskers
import Oneshim.Vision.BearerTokens
import Oneshim.Vision.Sanitizer
import Oneshim.Vision.Detector
import Oneshim.Analysis.RegimeTotals
import Oneshim.Analysis.LinkConstraints
import Oneshim.Storage.StorageLimit
import Oneshim.Search.HybridSearch
import Oneshim.Storage.EventIds
import Oneshim.Analysis.DeepWork
import Oneshim.Analysis.CommunicationBursts
import Oneshim.Analysis.Detectors
import Oneshim.Lib.Hasher
import Oneshim.Analysis.ChangeDetection
import Oneshim.Vision.SplitSecrets
import Oneshim.Web.IpBan
