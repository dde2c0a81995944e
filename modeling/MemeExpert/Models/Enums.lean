import Mathlib.Tactic.TypeStar

/-! Each enumeration keeps the members of the database type it embeds. -/

namespace MemeExpert

inductive ContentProcessingStatus where
  | failed | pending | processing | ready
  deriving DecidableEq

inductive ContentPipelineStage where
  | ingest | transcode | ocr | embed | classify | syncQdrant | syncMeili
  deriving DecidableEq

def ContentPipelineStage.value : ContentPipelineStage → String
  | ingest => "ingest"
  | transcode => "transcode"
  | ocr => "ocr"
  | embed => "embed"
  | classify => "classify"
  | syncQdrant => "sync_qdrant"
  | syncMeili => "sync_meili"

inductive ContentPipelineStageStatus where
  | pending | processing | succeeded | failed | duplicate
  deriving DecidableEq

def ContentPipelineStageStatus.value : ContentPipelineStageStatus → String
  | pending => "pending"
  | processing => "processing"
  | succeeded => "succeeded"
  | failed => "failed"
  | duplicate => "duplicate"

inductive PipelineIngestRequestStatus where
  | accepted | mediaInspectPending | mediaInspecting | materialized | resolvedShaDuplicate
  | failedInvalidMedia | failedBlockedPhash | publishFailed
  deriving DecidableEq

inductive RabbitMQOutboxMessageStatus where
  | pending | publishing | published | failed
  deriving DecidableEq

inductive ContentPipelineEventType where
  | stageReplayRequested | memeTranscoded | memeOcrDone | memeEmbedded | memeReady
  | memeQdrantSynced | memeMeiliSynced | mediaInspectRequested
  deriving DecidableEq

inductive RecoveryWorkKind where
  | backfill | sourcePost | ingestRequest | pipelineStage | syncTarget | outbox | deadLetter
  deriving DecidableEq

inductive RecoveryCapability where
  | resumeBackfill | replaySourcePost | reinspectIngest | retryStage | replayStage
  | regenerateDerivatives | resyncTarget | rebuildOutbox | recoverDeadLetter | archiveDeadLetter
  deriving DecidableEq

def RecoveryCapability.value : RecoveryCapability → String
  | resumeBackfill => "resume_backfill"
  | replaySourcePost => "replay_source_post"
  | reinspectIngest => "reinspect_ingest"
  | retryStage => "retry_stage"
  | replayStage => "replay_stage"
  | regenerateDerivatives => "regenerate_derivatives"
  | resyncTarget => "resync_target"
  | rebuildOutbox => "rebuild_outbox"
  | recoverDeadLetter => "recover_dead_letter"
  | archiveDeadLetter => "archive_dead_letter"

inductive RecoveryJobStatus where
  | preparing | preview | queued | running | cancelling | completed | completedWithFailures
  | cancelled | expired
  deriving DecidableEq

inductive RecoveryJobItemStatus where
  | queued | waitingDependency | waitingCapacity | dispatched | succeeded | failed | skippedStale
  | skippedDependency | cancelled
  deriving DecidableEq

inductive RecoveryReplayScope where
  | stageOnly | stageAndDependents
  deriving DecidableEq

def RecoveryReplayScope.value : RecoveryReplayScope → String
  | stageOnly => "stage_only"
  | stageAndDependents => "stage_and_dependents"

inductive RecoveryAcknowledgement where
  | terminalOverride | staleDependents | mediaReplacement
  deriving DecidableEq

def RecoveryAcknowledgement.value : RecoveryAcknowledgement → String
  | terminalOverride => "terminal_override"
  | staleDependents => "stale_dependents"
  | mediaReplacement => "media_replacement"

inductive RecoveryDeadLetterStatus where
  | unresolved | recoveryQueued | resolved | archived
  deriving DecidableEq

inductive PipelineAttemptOutcome where
  | processing | succeeded | failedRetryable | failedTerminal | skipped
  deriving DecidableEq

inductive SyncTargetKind where
  | qdrant | meilisearch
  deriving DecidableEq

inductive SyncTargetStatus where
  | pending | processing | synced | failed
  deriving DecidableEq

inductive SourceChannelPostStatus where
  | observed | accepted | unsupported | failed
  deriving DecidableEq

inductive SourceChannelBackfillJobStatus where
  | queued | running | waitingRetry | waitingCapacity | completed | completedWithFailures
  | failed | cancelled
  deriving DecidableEq

inductive MediaGenerationStatus where
  | generating | verified | uploaded | active | superseded | failed | stale
  deriving DecidableEq

inductive MediaGenerationCleanupStatus where
  | notEligible | pending | deleted | retainedReferenced | failed

inductive DependencyCircuitStatus where
  | closed | opened | halfOpen
  deriving DecidableEq

inductive StorageObjectPresence where
  | present | missing | unavailable
  deriving DecidableEq

end MemeExpert
