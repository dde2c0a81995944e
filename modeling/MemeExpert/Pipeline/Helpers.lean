import MemeExpert.Models.Session

/-! The stage graph and the pure functions on one stage journal row. -/

namespace MemeExpert.Pipeline

open ContentPipelineStage

abbrev Journal := ContentPipelineStage → Option PipelineStageJournal

/-- The stages in the order of `STAGE_ORDER`. -/
def stageOrder : List ContentPipelineStage :=
  [ingest, transcode, ocr, embed, classify, syncQdrant, syncMeili]

def pipelineReasonReplayRequested : String := "replay_requested"

def pipelineReasonSyncReplayRequested : String := "sync_replay_requested"

def nextStageByStage : ContentPipelineStage → Option ContentPipelineStage
  | transcode => some ocr
  | ocr => some embed
  | embed => some classify
  | _ => none

def classifyFanOutStages : List ContentPipelineStage := [syncQdrant, syncMeili]

def syncStageByTarget : SyncTargetKind → ContentPipelineStage
  | .qdrant => syncQdrant
  | .meilisearch => syncMeili

def syncStages : List ContentPipelineStage := [syncQdrant, syncMeili]

def downstreamStageEventTypes : ContentPipelineStage → ContentPipelineEventType
  | transcode => .memeTranscoded
  | ocr => .memeOcrDone
  | embed => .memeEmbedded
  | _ => .memeReady

inductive PipelineError where
  | staleStageTransition (stage : ContentPipelineStage) (attempt attemptCount : Nat)
  | missingJournalState (memeFileId : Uuid) (stage : ContentPipelineStage)
  | replayMissingOriginal (memeFileId : Uuid)
  | replayReservationWithoutEvent (memeFileId : Uuid)
  | replayIngestStage
  | replayStageActive (stage : ContentPipelineStage) (status : ContentPipelineStageStatus)
  | replayTerminalUnacknowledged (stage : ContentPipelineStage)
  | replayStageRowMissing (stage : ContentPipelineStage)
  | replayStageNotRetryable (stage : ContentPipelineStage)
  | replayNothingFailed
  | replaySyncBeforeClassify (memeFileId : Uuid)

def maxPipelineReasonLength : Nat := 128

def maxPipelineErrorLength : Nat := 4000

def trimReason (normalizedReason : String) : String :=
  stripAndCap normalizedReason maxPipelineReasonLength

def trimErrorText (lastErrorText : String) : String :=
  stripAndCap lastErrorText maxPipelineErrorLength

def sortedStageEntries (journal : Journal) : List PipelineStageJournal :=
  stageOrder.filterMap journal

def isReplayReserved (stageEntry : PipelineStageJournal) : Bool :=
  (stageEntry.status = .pending ∨ stageEntry.status = .processing) ∧
    stageEntry.normalizedReason = some pipelineReasonReplayRequested ∧
    stageEntry.lastEventId.isSome

def snapshotStage (stageEntry : PipelineStageJournal) : StageJournalSnapshot where
  attemptCount := stageEntry.attemptCount
  finishedAt := stageEntry.finishedAt
  isRetryable := stageEntry.isRetryable
  lastErrorText := stageEntry.lastErrorText
  lastEventId := stageEntry.lastEventId
  normalizedReason := stageEntry.normalizedReason
  retryAfter := stageEntry.retryAfter
  startedAt := stageEntry.startedAt
  status := stageEntry.status

def reserveReplay (stageEntry : PipelineStageJournal) (eventId : Uuid) (attempt : Nat) :
    PipelineStageJournal :=
  { stageEntry with
    status := .pending
    attemptCount := attempt
    lastEventId := some eventId
    normalizedReason := some pipelineReasonReplayRequested
    lastErrorText := none
    isRetryable := true
    retryAfter := none
    startedAt := none
    finishedAt := none }

def ensureStageAttemptIsCurrent (stageEntry : PipelineStageJournal) (attempt : Nat) :
    Except PipelineError Unit :=
  if attempt < stageEntry.attemptCount then
    .error (.staleStageTransition stageEntry.stage attempt stageEntry.attemptCount)
  else
    .ok ()

theorem mem_syncStages_iff {stage : ContentPipelineStage} :
    stage ∈ syncStages ↔ stage = syncQdrant ∨ stage = syncMeili := by
  simp only [syncStages, List.mem_cons, List.not_mem_nil, or_false]

theorem isReplayReserved_reserveReplay (stageEntry : PipelineStageJournal) (eventId : Uuid)
    (attempt : Nat) : isReplayReserved (reserveReplay stageEntry eventId attempt) = true := by
  simp [isReplayReserved, reserveReplay]

end MemeExpert.Pipeline
