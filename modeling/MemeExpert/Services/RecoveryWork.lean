import MemeExpert.Lib.Tables
import MemeExpert.Services.AdminRecovery

/-! Two loaders project a canonical row for the administrator. -/

namespace MemeExpert.Services

open Pipeline Tables

abbrev WorkKey := RecoveryWorkKind × RecoveryWorkId

/-- The canonical tables at one moment and the storage of the originals. A file is read here only
through the columns its fence keeps. -/
structure CanonicalState where
  clock : Time
  files : Table MediaFileFence.id := {}
  stages : Table (fun entry : Stamped PipelineStageJournal => entry.row.id) := {}
  syncTargets : Table (fun entry : Stamped MemeFileSyncTargetSnapshot => entry.row.id) := {}
  ingestRequests : Table PipelineIngestRequest.id := {}
  outbox : Table (fun entry : Stamped RabbitMQOutboxMessage => entry.row.id) := {}
  backfills : Table SourceChannelBackfillJob.id := {}
  sourcePosts : Table SourceChannelPost.id := {}
  deadLetters : Table PipelineDeadLetter.id := {}
  presence : String → StorageObjectPresence
  stageSlots :
    (stages.rows.map fun entry => (entry.row.memeFileId, entry.row.stage)).Nodup := by simp
  stageStamps : ∀ entry ∈ stages.rows, entry.updatedAt ≤ clock := by simp
  syncStamps : ∀ entry ∈ syncTargets.rows, entry.updatedAt ≤ clock := by simp
  deadLetterStamps : ∀ row ∈ deadLetters.rows, row.updatedAt ≤ clock := by simp

/-- No rows, with every object in its place. -/
def CanonicalState.empty : CanonicalState where
  clock := 0
  presence := fun _ => .present

def CanonicalState.stageRow (s : CanonicalState) (memeFileId : Uuid)
    (stage : ContentPipelineStage) : Option (Stamped PipelineStageJournal) :=
  s.stages.rows.find? fun entry => (entry.row.memeFileId, entry.row.stage) = (memeFileId, stage)

inductive RecoveryWorkStatus where
  | backfill (status : SourceChannelBackfillJobStatus)
  | sourcePost (status : SourceChannelPostStatus)
  | ingestRequest (status : PipelineIngestRequestStatus)
  | pipelineStage (status : ContentPipelineStageStatus)
  | syncTarget (status : SyncTargetStatus)
  | outbox (status : RabbitMQOutboxMessageStatus)
  | deadLetter (status : RecoveryDeadLetterStatus)
  deriving DecidableEq

namespace RecoveryWorkStatus

/-- The tests of `_candidate_actions`, which only stage and sync work reaches. -/
def isActive (status : RecoveryWorkStatus) : Bool :=
  status ∈ [pipelineStage .pending, pipelineStage .processing, syncTarget .pending,
    syncTarget .processing]

def isFailed (status : RecoveryWorkStatus) : Bool :=
  status ∈ [pipelineStage .failed, syncTarget .failed]

def isSuccessful (status : RecoveryWorkStatus) : Bool :=
  status ∈ [pipelineStage .succeeded, syncTarget .synced]

end RecoveryWorkStatus

/-- `event_id` and `dead_letter_id` are the details that other code reads back. -/
structure RecoveryWorkRead where
  kind : RecoveryWorkKind
  id : Uuid
  memeFileId : Option Uuid := none
  stage : Option ContentPipelineStage := none
  status : RecoveryWorkStatus
  isRetryable : Bool
  version : RecoveryVersion
  capabilities : List RecoveryCapability
  blockedReason : Option String
  eventId : Option Uuid := none
  deadLetterId : Option Uuid := none

def openDeadLetterStatuses : List RecoveryDeadLetterStatus := [.unresolved, .recoveryQueued]

def isLinkedTo (row : PipelineDeadLetter) (key : WorkKey) : Bool :=
  row.status ∈ openDeadLetterStatuses ∧ row.workKind = some key.1 ∧ row.workId = some key.2

def eventKinds : List RecoveryWorkKind := [.pipelineStage, .syncTarget]

def deadLetterMatchesWork (row : PipelineDeadLetter) (work : RecoveryWorkRead) : Bool :=
  row.workKind = some work.kind ∧ row.workId = some (.row work.id) ∧
    (work.kind ∈ eventKinds → row.eventId.isSome ∧ row.eventId = work.eventId)

def foldDeadLetter (work : RecoveryWorkRead) (row : PipelineDeadLetter) : RecoveryWorkRead :=
  { work with
    version := .deadLetter work.version row.updatedAt
    capabilities := [.recoverDeadLetter]
    blockedReason := none
    deadLetterId := some row.id }

def deadLetterWork (row : PipelineDeadLetter) : RecoveryWorkRead where
  kind := .deadLetter
  id := row.id
  status := .deadLetter row.status
  isRetryable := false
  version := .row row.updatedAt none
  capabilities := [.archiveDeadLetter]
  blockedReason :=
    if row.workKind.isSome ∧ row.workId.isSome then
      some ("The linked canonical work is no longer in the same recoverable generation; " ++
        "archive this dead letter.")
    else some "This dead letter could not be linked safely to canonical work."

def workScanLimit : Nat := 10000

def stuckAfter : Time := 900

def backfillStuckAfter : Time := 300

/-- `stamp < clock - after`. -/
def stuckBefore (s : CanonicalState) (after stamp : Time) : Bool := stamp + after < s.clock

def supportedMovingMediaMimeTypes : List (List Char) :=
  ["image/gif", "video/mp4", "video/quicktime", "video/webm"].map String.toList

/-- `str.casefold` on one character, as far as it yields letters of the supported types: the
Kelvin sign is the only other character that folds to one of them. -/
def caseFold (c : Char) : Char := if c.toNat = 0x212A then 'k' else c.toLower

theorem lawfulBEq_mimeType : LawfulBEq (List Char) := inferInstance

attribute [local instance] lawfulBEq_mimeType in
def isMovingMedia (file : Option MediaFileFence) : Bool :=
  file.any fun file =>
    ((file.mimeType.getD "").toList.map caseFold) ∈ supportedMovingMediaMimeTypes

def stageVersion (entry : Stamped PipelineStageJournal) (file : Option MediaFileFence) :
    RecoveryVersion :=
  match file with
  | some fence =>
    if entry.row.stage = .transcode ∧ isMovingMedia file then
      .media entry.updatedAt entry.row.lastEventId fence
    else .row entry.updatedAt entry.row.lastEventId
  | none => .row entry.updatedAt entry.row.lastEventId

def stageRead (entry : Stamped PipelineStageJournal) (file : Option MediaFileFence)
    (blockedReason : Option String) : RecoveryWorkRead where
  kind := .pipelineStage
  id := entry.row.id
  memeFileId := some entry.row.memeFileId
  stage := some entry.row.stage
  status := .pipelineStage entry.row.status
  isRetryable := isRetryableFailure entry.row
  version := stageVersion entry file
  capabilities := if isRetryableFailure entry.row then [.retryStage] else []
  blockedReason := blockedReason
  eventId := entry.row.lastEventId

def malformedSyncReasons : List String :=
  ["sync_qdrant_malformed_payload", "sync_meili_malformed_payload"]

def isRetryableSyncFailure (row : MemeFileSyncTargetSnapshot) : Bool :=
  row.status = .failed ∧ row.normalizedReason.all fun reason => reason ∉ malformedSyncReasons

def syncRead (entry : Stamped MemeFileSyncTargetSnapshot) (blockedReason : Option String) :
    RecoveryWorkRead where
  kind := .syncTarget
  id := entry.row.id
  memeFileId := some entry.row.memeFileId
  stage := some (syncStageByTarget entry.row.syncTarget)
  status := .syncTarget entry.row.status
  isRetryable := isRetryableSyncFailure entry.row
  version := .row entry.updatedAt entry.row.lastEventId
  capabilities := if isRetryableSyncFailure entry.row then [.resyncTarget] else []
  blockedReason := blockedReason
  eventId := entry.row.lastEventId

def backfillWork (row : SourceChannelBackfillJob) : RecoveryWorkRead where
  kind := .backfill
  id := row.id
  status := .backfill row.status
  isRetryable := row.isRetryable
  version := .row row.updatedAt none
  capabilities := if row.status = .failed ∧ row.isRetryable then [.resumeBackfill] else []
  blockedReason :=
    if row.status = .waitingRetry ∨ row.status = .waitingCapacity then
      some "Already waiting for automatic retry or capacity."
    else none

def sourcePostWork (row : SourceChannelPost) : RecoveryWorkRead where
  kind := .sourcePost
  id := row.id
  status := .sourcePost row.status
  isRetryable := row.isRetryable
  version := .row row.updatedAt none
  capabilities := if row.isRetryable then [.replaySourcePost] else []
  blockedReason :=
    if row.isRetryable then none
    else some "The crawler classified this post failure as non-retryable."

def ingestWork (row : PipelineIngestRequest) : RecoveryWorkRead :=
  let retryable : Bool := row.tempOriginalObjectKey.isSome ∧ row.status = .publishFailed
  { kind := .ingestRequest
    id := row.id
    memeFileId := row.materializedMemeFileId
    status := .ingestRequest row.status
    isRetryable := retryable
    version := .row row.updatedAt none
    capabilities := if retryable then [.reinspectIngest] else []
    blockedReason :=
      if retryable then none else some "No retained retryable temporary object is available." }

def outboxWork (entry : Stamped RabbitMQOutboxMessage) : RecoveryWorkRead :=
  let stuck : Bool := entry.row.status = .publishing
  { kind := .outbox
    id := entry.row.id
    status := .outbox entry.row.status
    isRetryable := true
    version := .row entry.updatedAt none
    capabilities := if stuck then [] else [.rebuildOutbox]
    blockedReason :=
      if stuck then some "Publishing lease is stale and awaits automatic reclaim." else none }

def stageWork (s : CanonicalState) (entry : Stamped PipelineStageJournal) : RecoveryWorkRead :=
  stageRead entry (s.files.get entry.row.memeFileId)
    (if isRetryableFailure entry.row then none
     else if entry.row.status = .pending ∨ entry.row.status = .processing then
      some "Stuck work must first be reclaimed by the automatic reconciler."
     else some "The stage failure is non-retryable.")

def syncWork (entry : Stamped MemeFileSyncTargetSnapshot) : RecoveryWorkRead :=
  syncRead entry
    (if isRetryableSyncFailure entry.row then none
     else if entry.row.status = .pending ∨ entry.row.status = .processing then
      some "Stuck sync work is awaiting automatic reclaim."
     else some "The sync payload is malformed and cannot be replayed safely.")

def isRecoverableBackfill (s : CanonicalState) (row : SourceChannelBackfillJob) : Bool :=
  row.updatedAt ≤ s.clock ∧
    (row.status ∈ [.failed, .waitingRetry, .waitingCapacity] ∨
      row.status = .running ∧ row.lastProgressAt.any (stuckBefore s backfillStuckAfter))

def isRecoverablePost (s : CanonicalState) (row : SourceChannelPost) : Bool :=
  row.status = .failed ∧ row.updatedAt ≤ s.clock

def isRecoverableIngest (s : CanonicalState) (row : PipelineIngestRequest) : Bool :=
  row.updatedAt ≤ s.clock ∧
    (row.status ∈ [.failedInvalidMedia, .failedBlockedPhash, .publishFailed] ∨
      row.status ∈ [.mediaInspectPending, .mediaInspecting] ∧
        stuckBefore s stuckAfter row.updatedAt)

def isRecoverableStage (s : CanonicalState) (entry : Stamped PipelineStageJournal) : Bool :=
  entry.updatedAt ≤ s.clock ∧ entry.row.stage ∉ syncStages ∧
    (entry.row.status = .failed ∨
      entry.row.status ∈ [.pending, .processing] ∧ stuckBefore s stuckAfter entry.updatedAt)

def isRecoverableSync (s : CanonicalState) (entry : Stamped MemeFileSyncTargetSnapshot) : Bool :=
  entry.updatedAt ≤ s.clock ∧
    (entry.row.status = .failed ∨
      entry.row.status ∈ [.pending, .processing] ∧ stuckBefore s stuckAfter entry.updatedAt)

def isRecoverableOutbox (s : CanonicalState) (entry : Stamped RabbitMQOutboxMessage) : Bool :=
  entry.updatedAt ≤ s.clock ∧
    (entry.row.status = .failed ∨
      entry.row.status = .publishing ∧ stuckBefore s stuckAfter entry.updatedAt)

def recoverableRow (s : CanonicalState) (key : WorkKey) : Option RecoveryWorkRead :=
  match key with
  | (_, .planned ..) => none
  | (.backfill, .row id) => ((s.backfills.get id).filter (isRecoverableBackfill s)).map backfillWork
  | (.sourcePost, .row id) =>
    ((s.sourcePosts.get id).filter (isRecoverablePost s)).map sourcePostWork
  | (.ingestRequest, .row id) =>
    ((s.ingestRequests.get id).filter (isRecoverableIngest s)).map ingestWork
  | (.pipelineStage, .row id) => ((s.stages.get id).filter (isRecoverableStage s)).map (stageWork s)
  | (.syncTarget, .row id) => ((s.syncTargets.get id).filter (isRecoverableSync s)).map syncWork
  | (.outbox, .row id) => ((s.outbox.get id).filter (isRecoverableOutbox s)).map outboxWork
  | (.deadLetter, .row _) => none

def readDeadLetters (s : CanonicalState) (key : WorkKey) : List PipelineDeadLetter :=
  newestFirst PipelineDeadLetter.updatedAt workScanLimit
    (s.deadLetters.rows.filter fun row =>
      row.status ∈ openDeadLetterStatuses ∧ row.updatedAt ≤ s.clock ∧
        if key.1 = .deadLetter then RecoveryWorkId.row row.id = key.2 else isLinkedTo row key)

abbrev CollectedWork := WorkKey → Option RecoveryWorkRead

/-- One turn of the loop over the dead letters: fold the row into the work it is linked to, or
list it as work of its own. -/
def collectDeadLetter (work : CollectedWork) (row : PipelineDeadLetter) : CollectedWork :=
  let linked : Option (WorkKey × RecoveryWorkRead) :=
    match row.workKind, row.workId with
    | some kind, some workId => (work (kind, workId)).map fun existing => ((kind, workId), existing)
    | _, _ => none
  match linked with
  | some (key, existing) =>
    if deadLetterMatchesWork row existing then
      Function.update work key (some (foldDeadLetter existing row))
    else Function.update work (.deadLetter, .row row.id) (some (deadLetterWork row))
  | none => Function.update work (.deadLetter, .row row.id) (some (deadLetterWork row))

/-- `_collect_work` for one target: the collected rows by their kind and id. -/
def collectWork (s : CanonicalState) (target : WorkKey) : CollectedWork :=
  (readDeadLetters s target).foldl collectDeadLetter
    (match recoverableRow s target with
     | some work => Function.update (fun _ => none) target (some work)
     | none => fun _ => none)

/-- Why the recovery services refuse a request or an item. The first three name the row they did
not find. -/
inductive RecoveryError where
  | workNotFound (key : WorkKey)
  | fileNotFound (memeFileId : Uuid)
  | deadLetterNotFound (id : Uuid)
  | conflict (message : String)
  | originalMissing
  | storageUnavailable

def getWork (s : CanonicalState) (key : WorkKey) : Except RecoveryError RecoveryWorkRead :=
  match collectWork s key key with
  | some work => .ok work
  | none => .error (.workNotFound key)

def candidateBlockedReason (active : Bool) : Option String :=
  if active then some "Pending or processing work must finish or be reclaimed before replay."
  else none

def linkedDeadLetter (s : CanonicalState) (work : RecoveryWorkRead) : Option PipelineDeadLetter :=
  (Queries.firstBy (fun a b => decide (a.createdAt < b.createdAt))
    (s.deadLetters.rows.filter fun row => isLinkedTo row (work.kind, .row work.id))).filter
      fun row => deadLetterMatchesWork row work

def withLinkedDeadLetter (s : CanonicalState) (work : RecoveryWorkRead) : RecoveryWorkRead :=
  match linkedDeadLetter s work with
  | some row => foldDeadLetter work row
  | none => work

def stageCandidate (entry : Stamped PipelineStageJournal) (file : MediaFileFence) :
    RecoveryWorkRead :=
  stageRead entry (some file)
    (candidateBlockedReason (entry.row.status = .pending ∨ entry.row.status = .processing))

def syncCandidate (entry : Stamped MemeFileSyncTargetSnapshot) : RecoveryWorkRead :=
  syncRead entry
    (candidateBlockedReason (entry.row.status = .pending ∨ entry.row.status = .processing))

def loadStageCandidate (s : CanonicalState) (key : WorkKey) :
    Except RecoveryError (RecoveryWorkRead × MediaFileFence) :=
  let row : Option (Uuid × (MediaFileFence → RecoveryWorkRead)) :=
    match key with
    | (.pipelineStage, .row id) =>
      (s.stages.get id).map fun entry => (entry.row.memeFileId, stageCandidate entry)
    | (.syncTarget, .row id) =>
      (s.syncTargets.get id).map fun entry => (entry.row.memeFileId, fun _ => syncCandidate entry)
    | _ => none
  match row with
  | none => .error (.workNotFound key)
  | some (memeFileId, projected) =>
    match s.files.get memeFileId with
    | none => .error (.fileNotFound memeFileId)
    | some file => .ok (projected file, file)

def loadCandidateWork (s : CanonicalState) (key : WorkKey) :
    Except RecoveryError (RecoveryWorkRead × Option MediaFileFence) :=
  if key.1 ∈ eventKinds then do
    let (projected, file) ← loadStageCandidate s key
    return (withLinkedDeadLetter s projected, some file)
  else do
    let work ← getWork s key
    return (work, work.memeFileId.bind s.files.get)

end MemeExpert.Services
