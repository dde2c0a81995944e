import MemeExpert.Models.Enums

/-! The tables the pipeline and the recovery control plane read and write. A row type keeps
the columns some modelled function uses. -/

namespace MemeExpert

abbrev Uuid := Nat

abbrev Time := Nat

def RetryLimit := {n : Nat // n = 1 ∨ n = 3 ∨ n = 5}
  deriving DecidableEq

def RetryLimit.three : RetryLimit := ⟨3, by decide⟩

instance : Coe RetryLimit Nat := ⟨Subtype.val⟩

theorem RetryLimit.pos (limit : RetryLimit) : 1 ≤ (limit : Nat) := by
  obtain ⟨n, rfl | rfl | rfl⟩ := limit <;> decide

structure PipelineStageJournal where
  id : Uuid
  memeFileId : Uuid
  stage : ContentPipelineStage
  status : ContentPipelineStageStatus := .pending
  attemptCount : Nat := 0
  lastEventId : Option Uuid := none
  normalizedReason : Option String := none
  lastErrorText : Option String := none
  isRetryable : Bool := false
  retryAfter : Option Time := none
  startedAt : Option Time := none
  finishedAt : Option Time := none
  deriving DecidableEq

structure MemeFileSyncTargetSnapshot where
  id : Uuid
  memeFileId : Uuid
  syncTarget : SyncTargetKind
  status : SyncTargetStatus
  lastEventId : Option Uuid := none
  normalizedReason : Option String := none
  lastErrorText : Option String := none
  lastSuccessAt : Option Time := none
  lastAttemptAt : Option Time := none
  attemptCount : Nat := 0
  deriving DecidableEq

structure MemeFile where
  id : Uuid
  memeId : Uuid
  status : ContentProcessingStatus := .pending
  mimeType : Option String := none
  s3OriginalKey : String
  s3WebVideoKey : Option String := none

structure PipelineIngestRequest where
  id : Uuid
  status : PipelineIngestRequestStatus := .accepted
  sha256Hex : Option String := none
  materializedMemeFileId : Option Uuid := none
  tempOriginalObjectKey : Option String := none
  failureCode : Option String := none
  failureDetail : Option String := none
  attemptCount : Nat := 0
  lockedAt : Option Time := none
  updatedAt : Time
  deriving DecidableEq

structure PipelineStageAttempt where
  memeFileId : Uuid
  stage : ContentPipelineStage
  eventId : Uuid
  attemptNumber : Nat
  outcome : PipelineAttemptOutcome := .processing
  recoveryItemId : Option Uuid := none
  workerRole : Option String := none
  workerInstanceId : Option String := none
  normalizedReason : Option String := none
  safeErrorText : Option String := none
  startedAt : Time
  finishedAt : Option Time := none

/-- The broker payload of one stage dispatch; its schema admits attempts from 1 on. -/
structure ContentPipelineDispatchEvent where
  eventId : Uuid
  eventType : ContentPipelineEventType
  memeId : Uuid
  memeFileId : Uuid
  stage : ContentPipelineStage
  originalObjectKey : String
  attempt : Nat
  attempt_pos : 1 ≤ attempt
  createdAt : Time
  deriving DecidableEq

inductive RabbitMessagePayload where
  | dispatch (event : ContentPipelineDispatchEvent)
  | mediaInspect (ingestRequestId : Uuid) (sha256Hex : String)
  deriving DecidableEq

inductive RabbitRoutingKey where
  | stage (stage : ContentPipelineStage)
  | event (eventType : ContentPipelineEventType)
  deriving DecidableEq

inductive RabbitAggregateType where
  | memeFile | pipelineIngestRequest
  deriving DecidableEq

structure RabbitMQOutboxMessage where
  id : Uuid
  routingKey : RabbitRoutingKey
  payload : RabbitMessagePayload
  messageId : Uuid
  eventType : ContentPipelineEventType
  aggregateType : RabbitAggregateType
  aggregateId : Uuid
  orderingKey : Option Uuid
  status : RabbitMQOutboxMessageStatus := .pending
  attemptCount : Nat := 0
  nextRetryAt : Option Time := none
  lockedAt : Option Time := none
  lockOwner : Option String := none
  publishedAt : Option Time := none
  lastErrorText : Option String := none
  createdAt : Time
  deriving DecidableEq

structure StageJournalSnapshot where
  attemptCount : Nat
  finishedAt : Option Time
  isRetryable : Bool
  lastErrorText : Option String
  lastEventId : Option Uuid
  normalizedReason : Option String
  retryAfter : Option Time
  startedAt : Option Time
  status : ContentPipelineStageStatus
  deriving DecidableEq

/-- The keys of `previous_stage_state`: the nine of a stage snapshot are written together. -/
structure PreviousStageState where
  stageSnapshot : Option StageJournalSnapshot := none
  nonStageBudgetConsumedAtDispatch : Option Nat := none
  stageDispatchPublicationFailures : Option Nat := none
  deriving DecidableEq

/-- The work a recovery item names: a stored row, or a stage row still to be created. -/
inductive RecoveryWorkId where
  | row (id : Uuid)
  | planned (memeFileId : Uuid) (stage : ContentPipelineStage)
  deriving DecidableEq

structure MediaGeneration where
  id : Uuid
  memeFileId : Option Uuid
  recoveryItemId : Option Uuid := none
  expectedWebVideoObjectKey : Option String := none
  webVideoObjectKey : String
  previewImageObjectKey : String
  attemptCount : Nat := 0
  status : MediaGenerationStatus := .generating
  safeFailureReason : Option String := none
  safeFailureText : Option String := none
  verifiedAt : Option Time := none
  supersededAt : Option Time := none
  cleanupStatus : MediaGenerationCleanupStatus := .notEligible
  cleanupAttemptCount : Nat := 0
  cleanupErrorText : Option String := none
  createdAt : Time

structure MediaFileFence where
  id : Uuid
  updatedAt : Time
  status : ContentProcessingStatus
  mimeType : Option String
  s3OriginalKey : String
  s3WebVideoKey : Option String
  activeMediaGenerationId : Option Uuid := none
  webVideoProfile : Option String := none
  webVideoVerifiedAt : Option Time := none
  sourceHasAudio : Option Bool := none
  webVideoHasAudio : Option Bool := none
  deriving DecidableEq

inductive RecoveryVersion where
  | row (updatedAt : Time) (eventId : Option Uuid)
  | media (updatedAt : Time) (eventId : Option Uuid) (file : MediaFileFence)
  | missing (memeFileId : Uuid) (stage : ContentPipelineStage)
  | deadLetter (work : RecoveryVersion) (updatedAt : Time)
  deriving DecidableEq

structure Stamped (ρ : Type) where
  row : ρ
  updatedAt : Time
  deriving DecidableEq

structure SourceChannelBackfillJob where
  id : Uuid
  status : SourceChannelBackfillJobStatus
  isRetryable : Bool := false
  lastErrorCode : Option String := none
  lastErrorText : Option String := none
  lastProgressAt : Option Time := none
  updatedAt : Time

structure SourceChannelBackfillAttempt where
  id : Uuid
  backfillJobId : Uuid
  attemptNumber : Nat
  recoveryItemId : Option Uuid := none
  isRetryable : Bool := false
  finishedAt : Option Time := none

structure SourceChannelPost where
  id : Uuid
  status : SourceChannelPostStatus
  isRetryable : Bool := false
  lastErrorCode : Option String := none
  lastErrorText : Option String := none
  updatedAt : Time

/-- A delivery the broker gave up on. The event of the payload is none where it is no identifier. -/
structure PipelineDeadLetter where
  id : Uuid
  workKind : Option RecoveryWorkKind := none
  workId : Option RecoveryWorkId := none
  eventId : Option Uuid := none
  status : RecoveryDeadLetterStatus := .unresolved
  recoveryItemId : Option Uuid := none
  createdAt : Time
  updatedAt : Time

structure RecoveryJobItem where
  id : Uuid
  recoveryJobId : Uuid
  parentItemId : Option Uuid := none
  memeFileId : Option Uuid := none
  stage : Option ContentPipelineStage := none
  isRoot : Bool := true
  workKind : RecoveryWorkKind
  workId : RecoveryWorkId
  action : RecoveryCapability
  expectedVersion : RecoveryVersion
  retryLimit : RetryLimit := .three
  attemptBudgetStart : Option Nat := none
  retryableFailuresConsumed : Nat := 0
  preserveReady : Bool := false
  suppressFanout : Bool := false
  terminalOverrideAcknowledged : Bool := false
  previousStageState : PreviousStageState := {}
  reservationActive : Bool := false
  status : RecoveryJobItemStatus := .queued
  dispatchEventId : Option Uuid := none
  canonicalVersion : Option RecoveryVersion := none
  normalizedReason : Option String := none
  safeErrorText : Option String := none
  dispatchedAt : Option Time := none
  finishedAt : Option Time := none
  createdAt : Time := 0
  deriving DecidableEq

structure RecoveryJobCounts where
  completedCount : Nat := 0
  failedCount : Nat := 0
  queuedCount : Nat := 0
  waitingCount : Nat := 0
  dispatchedCount : Nat := 0
  succeededCount : Nat := 0
  staleCount : Nat := 0
  skippedCount : Nat := 0
  cancelledCount : Nat := 0

structure RecoveryJob where
  id : Uuid
  status : RecoveryJobStatus := .preview
  counts : RecoveryJobCounts := {}
  scheduledAt : Option Time := none
  completedAt : Option Time := none
  cancelledAt : Option Time := none
  expiresAt : Option Time := none

structure DependencyCircuitState where
  dependency : String
  status : DependencyCircuitStatus := .closed
  errorFingerprint : Option String := none
  consecutiveFailures : Nat := 0
  openedAt : Option Time := none
  retryAt : Option Time := none
  probeOwner : Option String := none
  probeGeneration : Nat := 0

end MemeExpert
