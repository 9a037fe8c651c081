import Missive.Transducer
import Missive.TextRedaction
import Missive.AuthCredentials
import Missive.SecretAssignments
import Missive.JsonRedaction
import Missive.Core
import Missive.Effects
import Missive.Schema
import Missive.Repository
import Missive.Artifacts
import Missive.ArtifactIsolation
import Missive.ArtifactUpdates
import Missive.AgentRename
import Missive.BackgroundJobs
import Missive.JobLifecycle
import Missive.JobRefinement
import Missive.JobRuns
import Missive.JobInvariants
import Missive.JobWorkers
import Missive.RetryAccounting
import Missive.Protocol
import Missive.TaskPersistence
import Missive.GatewayPersistence
import Missive.Frames
import Missive.TaskReports
import Missive.TaskIsolation
import Missive.ContextLinks
import Missive.RequestRecording
import Missive.TaskCompletion
import Missive.JobPersistence
import Missive.ArtifactVersions
import Missive.SendPersistence
import Missive.StreamAgreement
import Missive.TaskRefresh
import Missive.SubscriptionScans
import Missive.ReportMoves
import Missive.TaskFrames
import Missive.SubscriptionJobs
import Missive.SubscriptionLocks
import Missive.Busy
import Missive.BusyRuns
import Missive.LastMax
import Missive.Collectives
import Missive.Barrier
import Missive.BarrierVerdict
import Missive.BarrierTasks
import Missive.LocalWaiters
import Missive.Broadcast
import Missive.BroadcastJournal
import Missive.BroadcastTurns
import Missive.OrderedLists
import Missive.BroadcastAccounting
import Missive.MemberOutputs
import Missive.ReduceInputs
import Missive.NewestOutput
import Missive.Interleaving
import Missive.Migrations
import Missive.MigrationLedger
import Missive.GatewayDaemon
import Missive.GatewayExclusion
import Missive.ConfigSeeding
import Missive.CardCaching
import Missive.Contexts
import Missive.NamedForest
import Missive.ContextDirectory
import Missive.ContextSelection
import Missive.RedactionNoninterference
import Missive.SchemaChecks
import Missive.EventReplay
import Missive.ReportJournals
import Missive.StateReplay
import Missive.PushConfigs
import Missive.JobRequests
import Missive.JobManager
import Missive.FilePaths
import Missive.StoragePaths
import Missive.JsonObjects
import Missive.StdioCommands
import Missive.ControlFrames
import Missive.StdioLoop
import Missive.RedactionIdempotence
import Missive.HttpControl
import Missive.EventTail
import Missive.TableSums
import Missive.ReplayCounts
import Missive.CapabilityMatching
import Missive.RoundRobin
import Missive.SessionResets
import Missive.RetryBackoff
import Missive.RowDates
import Missive.TaskDates
import Missive.UnendedRows
import Missive.CompletionOrder
import Missive.FileDropHandoff
import Missive.FileDropWorkers
import Missive.InterfaceNegotiation
import Missive.SseRecords
import Missive.SseLimits
import Missive.TaskEndpoints
import Missive.ServiceHeaders
import Missive.StreamEvents
import Missive.TextReplacement
import Missive.ReduceTemplates
import Missive.VoteReduction
import Missive.SuffixSearch
import Missive.ExportNames
import Missive.SendInputs
import Missive.InboundAuth
import Missive.RateLimits
import Missive.InboundFrames
import Missive.AdapterLowering
import Missive.SeededAuth
import Missive.FileDropFeedback
import Missive.ServiceInstall
import Missive.TableRenaming
import Missive.TableConstraints
import Missive.Memberships
import Missive.GroupTables
import Missive.Groups
import Missive.GroupDirectory
import Missive.GroupRuns
import Missive.GroupRename
import Missive.GroupJournal
import Missive.StoreStatements
import Missive.StoreIntegrity
import Missive.TaskPools
import Missive.WebhookReceiver
import Missive.WebhookRuns
