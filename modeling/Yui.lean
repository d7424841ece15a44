import Yui.FallibleRun
import Yui.UniqueAppend
import Yui.JsText
import Yui.RecordReference
import Yui.Checked
import Yui.WorkMailbox
import Yui.WorkMailboxNormal
import Yui.WorkMailboxSteps
import Yui.IncreasingLabels
import Yui.WorkMailboxClosure
import Yui.WorkMailboxLedger
import Yui.WorkMailboxConservation
import Yui.WorkMailboxRetention
import Yui.WorkMailboxJournal
import Yui.WorkMailboxQueue
import Yui.RoleRunDispatch
import Yui.RoleRunSettlement
import Yui.RoleRunProgress
import Yui.HeadArray
import Yui.KeyedTable
import Yui.JobDefinition
import Yui.KeyedWorkQueue
import Yui.KeyedWorkQueueSpec
import Yui.KeyedWorkQueueInvariant
import Yui.KeyedWorkQueueRefinement
import Yui.KeyedWorkQueueEvents
import Yui.KeyedWorkQueueSignals
import Yui.KeyedWorkQueueReplay
import Yui.KeyedWorkQueueStop
import Yui.FairTrace
import Yui.BoundedSlotPool
import Yui.InstanceHost
import Yui.InstanceOwnership
import Yui.MailboxScheduler
import Yui.MailboxSchedulerInvariant
import Yui.MailboxSchedulerProgress
import Yui.JsonCodec
import Yui.JsonValue
import Yui.OperationFacts
import Yui.JobRecord
import Yui.JobValidation
import Yui.DurableJob
import Yui.DurableJobTransition
import Yui.DurableJobHistory
import Yui.DurableJobOperations
import Yui.CommandProgram
import Yui.JobSupervisor
import Yui.JobSupervisorPasses
import Yui.JobSupervisorStore
import Yui.DurableJobValid
import Yui.JobBusinessResult
import Yui.JobSupervisorEnds
import Yui.JobSupervisorProtocol
import Yui.JobSupervisorKeeps
import Yui.JobSupervisorInvariant
import Yui.JobSupervisorStarts
import Yui.JobRunner
import Yui.JobHarvest
import Yui.RuntimeFacts
import Yui.RuntimeObservation
import Yui.RuntimeObservationJson
import Yui.RuntimeObservationStable
import Yui.RuntimeObservationEvent
import Yui.RuntimeInbox
import Yui.RuntimeInboxScan
import Yui.RuntimeInboxWire
import Yui.RuntimeInboxNormal
import Yui.HostSource
import Yui.RuntimeInboxEvents
import Yui.RuntimeInboxPublish
import Yui.ProviderContinuation
import Yui.ContinuationFinality
import Yui.ContinuationManager
import Yui.ContinuationAgreement
import Yui.ProviderBinding
import Yui.ProviderAuthority
import Yui.ProviderRetry
import Yui.ProviderRetryChain
import Yui.ProviderRetryBudget
import Yui.ProviderRetryRecords
import Yui.ProviderRetryRuns
import Yui.JobAdmission
import Yui.JobOccupancy
import Yui.Schedule
import Yui.ScheduleControl
import Yui.ScheduleOrder
import Yui.ScheduleGrid
import Yui.CapabilityRegistry
import Yui.CapabilityEvidence
import Yui.ContextProjection
import Yui.ContextHistory
import Yui.ContextBuilder
import Yui.BoundedRpc
import Yui.BoundedRpcOnce
import Yui.AgentTurnRun
import Yui.ModelGatewayRuns
import Yui.WorkflowFileLock
import Yui.AppendLog
import Yui.SessionBackend
import Yui.SessionBackendHolds
import Yui.SessionStore
import Yui.SessionStoreLog
import Yui.SessionStoreRuns
import Yui.SessionRecorder
import Yui.SessionStoreLinear
import Yui.ActiveRuns
import Yui.ActiveRunsInvariant
import Yui.StoreTransaction
import Yui.StoreTransactionLaw
import Yui.StoreTransactionAsync
import Yui.StoreTransactionIsolation
import Yui.GuardedSave
import Yui.StoreGuards
import Yui.StoreSaves
import Yui.PersistenceWorker
import Yui.PersistenceWorkerOnce
import Yui.IntegrationAttempt
import Yui.IntegrationCommands
import Yui.IntegrationSource
import Yui.IntegrationChecks
import Yui.IntegrationService
import Yui.IntegrationKnowledge
import Yui.IntegrationQuiet
import Yui.IntegrationSourceKeeps
import Yui.IntegrationKeeps
import Yui.IntegrationCalls
import Yui.IntegrationWorld
import Yui.IntegrationInvariant
import Yui.IntegrationDelivery
import Yui.IntegrationDecision
import Yui.EventJournal
import Yui.RoleRunDelivery
import Yui.RoleRunDeliveryRuns
import Yui.RoleRunDeliveryKeeps
import Yui.RoleRunDeliveryOnce
import Yui.JobCheckpoint
import Yui.MessageControl
import Yui.AcpSession
import Yui.AcpSessionTurns
import Yui.TaskRecords
import Yui.NextAction
import Yui.CompletionReadiness
import Yui.CompletionAgreement
import Yui.ProgramEnds
import Yui.ReleaseHandover
import Yui.ReleasePointer
import Yui.ReleaseFence
import Yui.ReleasePhases
import Yui.KeyedMap
import Yui.ContextSnapshot
import Yui.ContextSnapshotFacts
import Yui.RunContextPack
import Yui.RunContextFreeze
import Yui.RunContextReads
import Yui.ResourceQuarantine
import Yui.ResourceCustody
import Yui.LineFraming
import Yui.JsonLineChannel
import Yui.BinaryRounding
import Yui.TaskActivation
import Yui.PathSearch
import Yui.CapabilityAvailability
import Yui.RuntimeObservationKey
import Yui.Utf8Cut
import Yui.AgentResultTransport
import Yui.QuantifiedSequence
import Yui.FilePatterns
import Yui.FilePatternMatch
import Yui.SessionTokenMetrics
import Yui.SessionTokenReplay
import Yui.RunProgressFacts
import Yui.WorkItemSelection
import Yui.OverlapDiagnostics
import Yui.Supersession
import Yui.StoredRecords
import Yui.PublicationReferences
import Yui.DraftPlan
import Yui.HandoverLock
import Yui.ReleaseWorkflow
import Yui.ReleaseEffects
import Yui.SnapshotDelta
import Yui.ResourceRegistry
import Yui.ResourceRegistrySaves
